import UsbDisplay.Proofs.FlakyLines

/-!
Blocks of the display's description. A block is read register by register, in order, up to the first
read that fails, and that read decides what comes of the block (`Register.ReadUpTo`). Its addresses
are counted modulo the address space and no block shares one with another. So a block that is read
is exactly what stands in its registers, whatever the line does to the exchanges
(`Register.readEdid_reads_block`).
-/

namespace UsbDisplay

open Register

namespace Register

/-! ### Addresses -/

/-- The register that holds a byte of a block. -/
def edidAddress (block : UInt8) (i : Nat) : UInt16 :=
  edidBase + block.toUInt16 * 128 + UInt16.ofNat i

/-- A number as a word of 16 bits; `none` is an overflow. -/
def word? (n : Nat) : Option UInt16 :=
  if n < 65536 then some (UInt16.ofNat n) else none

/-- The register that holds a byte of a block, with a look at everything but the two sums that are
meant to wrap around; `none` is an overflow. -/
def edidAddress? (block : UInt8) (i : Nat) : Option UInt16 := do
  let start ← word? (block.toNat * 128)
  let place ← word? i
  return edidBase + start + place

theorem toNat_edidAddress (block : UInt8) (i : Nat) :
    (edidAddress block i).toNat = (0xC000 + 128 * block.toNat + i) % 65536 := by
  have hblock := block.toNat_lt
  simp only [edidAddress, edidBase, UInt16.toNat_add, UInt16.toNat_mul, UInt8.toNat_toUInt16,
    UInt16.toNat_ofNat', UInt16.reduceToNat]
  omega

theorem edidAddress?_eq (block : UInt8) {i : Nat} (hi : i < 128) :
    edidAddress? block i = some (edidAddress block i) := by
  have hblock := block.toNat_lt
  have hstart : word? (block.toNat * 128) = some (block.toUInt16 * 128) := by
    rw [word?, if_pos (by omega), Option.some.injEq, ← UInt16.toNat_inj]
    simp only [UInt16.toNat_ofNat', UInt16.toNat_mul, UInt8.toNat_toUInt16, UInt16.reduceToNat]
  have hplace : word? i = some (UInt16.ofNat i) := if_pos (by omega)
  rw [edidAddress?, hstart, hplace]
  rfl

/-- All blocks together take half of the addresses, so no two of them meet. -/
theorem edidAddress_ne {block other : UInt8} (h : block ≠ other) {i j : Nat} (hi : i < 128)
    (hj : j < 128) : edidAddress block i ≠ edidAddress other j := by
  intro heq
  have hsame := congrArg UInt16.toNat heq
  rw [toNat_edidAddress, toNat_edidAddress] at hsame
  have hblock := block.toNat_lt
  have hother := other.toNat_lt
  refine h (UInt8.toNat_inj.1 ?_)
  omega

/-- The addresses of `n` registers in a row. -/
def addresses : (n : Nat) → UInt16 → List UInt16
  | 0, _ => []
  | n + 1, address => address :: addresses n (address + 1)

theorem addresses_eq (n : Nat) (address : UInt16) :
    addresses n address = (List.range n).map fun i => address + UInt16.ofNat i := by
  induction n generalizing address with
  | zero => rfl
  | succ n ih =>
    have hnext (i : Nat) : address + 1 + UInt16.ofNat i = address + UInt16.ofNat (i + 1) := by
      rw [UInt16.add_assoc, Nat.add_comm i 1, UInt16.ofNat_add]
      rfl
    rw [addresses, ih, List.range_succ_eq_map, List.map_cons, List.map_map]
    congr 1
    · exact (UInt16.add_zero address).symm
    · exact List.map_congr_left fun i _ => hnext i

theorem addresses_block (block : UInt8) :
    addresses edidBlockLength (edidBase + block.toUInt16 * 128) =
      (List.range 128).map (edidAddress block) :=
  addresses_eq _ _

/-! ### Reads in a row -/

/-- The exchanges of a read, with what the read gave. -/
abbrev RecordedRead := List ControlExchange × Except Error UInt8

/-- Registers were read in order, up to the first read that failed, and this came of it. -/
inductive ReadUpTo (timeout : Duration) :
    List UInt16 → List RecordedRead → Except Error (List UInt8) → Prop
  | done : ReadUpTo timeout [] [] (.ok [])
  | failed {address : UInt16} {made : List ControlExchange} {e : Error} (rest : List UInt16)
    (reading : Reading timeout address made (.error e)) :
    ReadUpTo timeout (address :: rest) [(made, .error e)] (.error e)
  | next {address : UInt16} {made : List ControlExchange} {value : UInt8} {rest : List UInt16}
    {reads : List RecordedRead} {result : Except Error (List UInt8)}
    (reading : Reading timeout address made (.ok value))
    (later : ReadUpTo timeout rest reads result) :
    ReadUpTo timeout (address :: rest) ((made, .ok value) :: reads) (result.map (value :: ·))

theorem readRun_recorded {σ : Type} [ControlTransport σ] (timeout : Duration) (n : Nat)
    (address : UInt16) (r : RecordedLine σ) :
    ∃ reads : List RecordedRead, readRun timeout n address r =
        r.note (readRun timeout n address r.line) (reads.flatMap Prod.fst) ∧
      ReadUpTo timeout (addresses n address) reads (readRun timeout n address r.line).1 := by
  induction n generalizing address r with
  | zero => exact ⟨[], by simp [readRun, RecordedLine.note], .done⟩
  | succ n ih =>
    obtain ⟨made, hread, hreading⟩ := read_recorded timeout address r
    simp only [readRun, hread]
    generalize read timeout address r.line = got at *
    obtain ⟨e | value, s⟩ := got
    · exact ⟨[(made, .error e)], by simp [RecordedLine.note], .failed _ hreading⟩
    · obtain ⟨reads, hrest, hreads⟩ := ih (address + 1) (r.note ((), s) made).2
      simp only [RecordedLine.note] at hrest hreads ⊢
      rw [hrest]
      generalize readRun timeout n (address + 1) s = later at *
      obtain ⟨e | values, s'⟩ := later
      · exact ⟨(made, .ok value) :: reads, by simp, .next hreading hreads⟩
      · exact ⟨(made, .ok value) :: reads, by simp, .next hreading hreads⟩

theorem readEdid_recorded {σ : Type} [ControlTransport σ] (timeout : Duration) (block : UInt8)
    (r : RecordedLine σ) : ∃ reads : List RecordedRead,
      (readEdid timeout block r).2.exchanges = r.exchanges ++ reads.flatMap Prod.fst ∧
      ReadUpTo timeout ((List.range 128).map (edidAddress block)) reads
        (readEdid timeout block r).1 := by
  obtain ⟨reads, hrun, hreads⟩ :=
    readRun_recorded timeout edidBlockLength (edidBase + block.toUInt16 * 128) r
  have hresult : (readEdid timeout block r).1 = (readEdid timeout block r.line).1 :=
    congrArg Prod.fst hrun
  rw [addresses_block] at hreads
  refine ⟨reads, congrArg (·.2.exchanges) hrun, ?_⟩
  rw [hresult]
  exact hreads

namespace ReadUpTo

variable {timeout : Duration} {addresses : List UInt16} {reads : List RecordedRead}
  {result : Except Error (List UInt8)}

theorem reading (h : ReadUpTo timeout addresses reads result) {i : Nat}
    {made : List ControlExchange} {got : Except Error UInt8}
    (hread : reads[i]? = some (made, got)) :
    ∃ address, addresses[i]? = some address ∧ Reading timeout address made got := by
  induction h generalizing i with
  | done => cases hread
  | failed rest reading =>
    cases i with
    | zero =>
      cases hread
      exact ⟨_, rfl, reading⟩
    | succ i => cases hread
  | next reading later ih =>
    cases i with
    | zero =>
      cases hread
      exact ⟨_, rfl, reading⟩
    | succ i => exact ih hread

theorem length_le (h : ReadUpTo timeout addresses reads result) :
    reads.length ≤ addresses.length := by
  induction h with
  | done => exact Nat.le_refl 0
  | failed rest reading => exact Nat.succ_le_succ (Nat.zero_le _)
  | next reading later ih => exact Nat.succ_le_succ ih

/-- One request went out for each read, for the registers in order. -/
theorem packets_eq (h : ReadUpTo timeout addresses reads result) :
    (reads.flatMap Prod.fst).filterMap ControlExchange.packet? =
      (addresses.take reads.length).map readPacket := by
  induction h with
  | done => rfl
  | failed rest reading =>
    rw [List.flatMap_singleton, reading.packets_eq]
    rfl
  | next reading later ih =>
    rw [List.flatMap_cons, List.filterMap_append, reading.packets_eq, ih]
    rfl

/-- The values come exactly if all registers were read. -/
theorem eq_ok_iff (h : ReadUpTo timeout addresses reads result) {values : List UInt8} :
    result = .ok values ↔
      reads.length = addresses.length ∧ reads.map Prod.snd = values.map .ok := by
  induction h generalizing values with
  | done => cases values <;> simp
  | failed rest reading => cases values <;> simp
  | @next _ made value rest reads result reading later ih =>
    cases values with
    | nil => cases result <;> simp [Except.map]
    | cons first values =>
      constructor
      · intro hok
        cases result with
        | error e => cases hok
        | ok got =>
          cases hok
          obtain ⟨hlength, hvalues⟩ := ih.1 rfl
          exact ⟨congrArg (· + 1) hlength, by rw [List.map_cons, List.map_cons, hvalues]⟩
      · rintro ⟨hlength, hvalues⟩
        obtain ⟨hvalue, hrest⟩ := List.cons.inj hvalues
        cases hvalue
        rw [ih.2 ⟨Nat.succ.inj hlength, hrest⟩]
        rfl

/-- What has failed is the last read, and no other one. -/
theorem eq_error_iff (h : ReadUpTo timeout addresses reads result) {e : Error} :
    result = .error e ↔ ∃ k, reads.length = k + 1 ∧ (∃ made, reads[k]? = some (made, .error e)) ∧
      ∀ i < k, ∃ made value, reads[i]? = some (made, .ok value) := by
  induction h with
  | done => simp
  | @failed _ made cause rest reading =>
    constructor
    · rintro ⟨⟩
      exact ⟨0, rfl, ⟨made, rfl⟩, fun i hi => absurd hi (Nat.not_lt_zero i)⟩
    · rintro ⟨k, hlength, ⟨_, hlast⟩, -⟩
      obtain rfl : k = 0 := (Nat.succ.inj hlength).symm
      cases hlast
      rfl
  | @next _ made value rest reads result reading later ih =>
    have hmap : result.map (value :: ·) = .error e ↔ result = .error e := by
      cases result <;> simp [Except.map]
    rw [hmap, ih]
    constructor
    · rintro ⟨k, hlength, hlast, hbefore⟩
      refine ⟨k + 1, congrArg (· + 1) hlength, hlast, fun i hi => ?_⟩
      cases i with
      | zero => exact ⟨made, value, rfl⟩
      | succ i => exact hbefore i (Nat.lt_of_succ_lt_succ hi)
    · rintro ⟨k, hlength, ⟨_, hlast⟩, hbefore⟩
      cases k with
      | zero => cases hlast
      | succ k =>
        exact ⟨k, Nat.succ.inj hlength, ⟨_, hlast⟩, fun i hi =>
          hbefore (i + 1) (Nat.succ_lt_succ hi)⟩

end ReadUpTo

/-! ### Register files -/

section Serves

variable {σ : Type} [ControlTransport σ] {timeout : Duration} {registers : UInt16 → UInt8}
  {holds : σ → Prop}

/-- Whatever else a line does, a read on it that succeeds gives the value of its register. -/
structure Serves (timeout : Duration) (registers : UInt16 → UInt8) (holds : σ → Prop) : Prop where
  keeps : ∀ s address, holds s → holds (read timeout address s).2
  gives : ∀ s address value, holds s → (read timeout address s).1 = .ok value →
    value = registers address

theorem readRun_of_serves (h : Serves timeout registers holds) {n : Nat} {address : UInt16} {s : σ}
    (hs : holds s) {values : List UInt8} (hok : (readRun timeout n address s).1 = .ok values) :
    values = (addresses n address).map registers := by
  induction n generalizing address s values with
  | zero =>
    cases hok
    rfl
  | succ n ih =>
    have hgives := h.gives s address
    have hkeeps := h.keeps s address hs
    rw [readRun] at hok
    generalize read timeout address s = got at *
    obtain ⟨e | value, s'⟩ := got
    · cases hok
    · have hrest : ∀ {values}, (readRun timeout n (address + 1) s').1 = .ok values →
          values = (addresses n (address + 1)).map registers := ih hkeeps
      simp only at hok
      generalize readRun timeout n (address + 1) s' = later at *
      obtain ⟨e | rest, s''⟩ := later
      · cases hok
      · cases hok
        rw [addresses, List.map_cons, hrest rfl, hgives value hs rfl]

end Serves

end Register

namespace FlakyLine

variable {timeout : Duration}

theorem registers_after {f : FlakyLine} {taken : Adapter}
    (h : taken.registers = f.adapter.registers) :
    (f.after taken).adapter.registers = f.adapter.registers := by
  rcases f.adapter_after taken with htaken | hlost
  · rw [htaken, h]
  · rw [hlost]

theorem registers_read (timeout : Duration) (address : UInt16) (f : FlakyLine) :
    (Register.read timeout address f).2.adapter.registers = f.adapter.registers :=
  read_keeps (fun f : FlakyLine => f.adapter.registers)
    (fun f => registers_after (f.adapter.registers_controlOut (readPacket address)))
    (fun f => registers_after (f.adapter.registers_controlIn (readPacket address))) f

/-- A read that succeeds gives the value of its register, whatever went wrong before. -/
theorem eq_of_read {address : UInt16} {value : UInt8} {f : FlakyLine}
    (h : (Register.read timeout address f).1 = .ok value) :
    value = f.adapter.registers address := by
  simp only [Register.read, ControlTransport.send] at h
  split at h
  · cases h
  next n f' hsend =>
    obtain ⟨hsent, rfl⟩ := Prod.mk.inj hsend
    obtain ⟨hout, hadapter⟩ := of_report hsent (f.adapter.controlOut (readPacket address)).2
    have hpending := Adapter.pendingRead_controlOut hout
    have hregisters := f.adapter.registers_controlOut (readPacket address)
    rw [← hadapter] at hpending hregisters
    generalize f.after (f.adapter.controlOut (readPacket address)).2 = f' at *
    simp only [ControlTransport.receive] at h
    split at h
    · cases h
    next count filled f'' hreceive =>
      obtain ⟨hreceived, hrest⟩ := Prod.mk.inj hreceive
      obtain ⟨hfilled, -⟩ := Prod.mk.inj hrest
      obtain ⟨hin, -⟩ := of_report hreceived f'.adapter
      split at h
      · cases h
      next hcount =>
        cases h
        rw [← hregisters]
        exact Adapter.headD_controlIn hpending (Prod.ext hin (Prod.ext hfilled rfl)) hcount

/-- A line to an adapter serves the register file of the adapter. -/
theorem serves (timeout : Duration) (registers : UInt16 → UInt8) :
    Serves timeout registers fun f : FlakyLine => f.adapter.registers = registers where
  keeps f address hf := (registers_read timeout address f).trans hf
  gives f address value hf hread := by
    rw [← hf]
    exact eq_of_read hread

/-- Nothing goes wrong on a line. -/
structure Quiet (f : FlakyLine) : Prop where
  mishaps : f.mishaps = []
  control : f.adapter.faults.control = none
  shortReads : f.adapter.faults.shortReads = false

theorem read_of_quiet (timeout : Duration) {f : FlakyLine} (h : f.Quiet) (address : UInt16) :
    (Register.read timeout address f).1 = .ok (f.adapter.registers address) ∧
      (Register.read timeout address f).2.Quiet := by
  obtain ⟨a, mishaps⟩ := f
  obtain ⟨rfl, hcontrol, hreads⟩ := h
  let asked : Adapter :=
    { a with controlLog := a.controlLog.push (.read address), pendingRead := some address }
  have hout : a.controlOut (readPacket address) = (.ok 8, asked) := by
    rw [Adapter.controlOut, hcontrol, parse?_readPacket]
    rfl
  have hin : asked.controlIn (readPacket address) =
      (.ok 8, a.registers address :: (readPacket address).tail,
        { asked with pendingRead := none }) := by
    rw [Adapter.controlIn, hcontrol, hreads]
    rfl
  have hread : Register.read timeout address (FlakyLine.mk a []) =
      (.ok (a.registers address), FlakyLine.mk { asked with pendingRead := none } []) := by
    simp only [Register.read, ControlTransport.send, ControlTransport.receive, hout, hin, report,
      after, List.headD_nil, List.tail_nil]
    rfl
  rw [hread]
  exact ⟨rfl, rfl, hcontrol, hreads⟩

theorem readRun_of_quiet (timeout : Duration) {f : FlakyLine} (h : f.Quiet) (n : Nat)
    (address : UInt16) :
    (readRun timeout n address f).1 = .ok ((addresses n address).map f.adapter.registers) := by
  induction n generalizing address f with
  | zero => rfl
  | succ n ih =>
    obtain ⟨hvalue, hquiet⟩ := read_of_quiet timeout h address
    have hregisters := registers_read timeout address f
    rw [readRun]
    generalize Register.read timeout address f = got at *
    obtain ⟨_, f'⟩ := got
    cases hvalue
    have hrest := ih hquiet (address + 1)
    simp only at hrest hregisters ⊢
    rw [hregisters] at hrest
    generalize readRun timeout n (address + 1) f' = later at *
    obtain ⟨_, f''⟩ := later
    cases hrest
    rfl

end FlakyLine

namespace Register

/-- Byte `i` of a block stands 128 times the block and `i` further than the base, counted modulo the
address space; nothing else wraps around on the way there, and no two blocks have an address in
common. A block is read from there byte by byte: one request for each, in order, until one fails.
If none does, these are the 128 bytes, and else the failure of the last read is what comes of it. On
a line that serves a register file, a block that comes is what stands in its registers, and from an
adapter on whose line nothing goes wrong it does come. -/
theorem readEdid_reads_block (timeout : Duration) (block : UInt8) :
    (∀ i < 128, edidAddress? block i = some (edidAddress block i) ∧
      (edidAddress block i).toNat = (0xC000 + 128 * block.toNat + i) % 65536) ∧
    (∀ other, block ≠ other → ∀ i < 128, ∀ j < 128, edidAddress block i ≠ edidAddress other j) ∧
    (∀ (σ : Type) [ControlTransport σ] (r : RecordedLine σ), ∃ reads : List RecordedRead,
      (readEdid timeout block r).2.exchanges = r.exchanges ++ reads.flatMap Prod.fst ∧
      (reads.flatMap Prod.fst).filterMap ControlExchange.packet? =
        (List.range reads.length).map (fun i => readPacket (edidAddress block i)) ∧
      (∀ i made got, reads[i]? = some (made, got) →
        Reading timeout (edidAddress block i) made got) ∧
      (∀ values, (readEdid timeout block r).1 = .ok values ↔
        reads.length = 128 ∧ reads.map Prod.snd = values.map .ok) ∧
      ∀ e, (readEdid timeout block r).1 = .error e ↔ ∃ k < 128, reads.length = k + 1 ∧
        (∃ made, reads[k]? = some (made, .error e)) ∧
        ∀ i < k, ∃ made value, reads[i]? = some (made, .ok value)) ∧
    (∀ (σ : Type) [ControlTransport σ] (registers : UInt16 → UInt8) (holds : σ → Prop),
      Serves timeout registers holds → ∀ s, holds s → ∀ values,
        (readEdid timeout block s).1 = .ok values →
        values = (List.range 128).map fun i => registers (edidAddress block i)) ∧
    (∀ (f : FlakyLine) values, (readEdid timeout block f).1 = .ok values →
      values = (List.range 128).map fun i => f.adapter.registers (edidAddress block i)) ∧
    ∀ f : FlakyLine, f.Quiet → (readEdid timeout block f).1 =
      .ok ((List.range 128).map fun i => f.adapter.registers (edidAddress block i)) := by
  have hserves (σ : Type) [ControlTransport σ] (registers : UInt16 → UInt8) (holds : σ → Prop)
      (h : Serves timeout registers holds) (s : σ) (hs : holds s) (values : List UInt8)
      (hok : (readEdid timeout block s).1 = .ok values) :
      values = (List.range 128).map fun i => registers (edidAddress block i) := by
    rw [readRun_of_serves h hs hok, addresses_block, List.map_map]
    rfl
  have hquiet (f : FlakyLine) (hf : f.Quiet) : (readEdid timeout block f).1 =
      .ok ((List.range 128).map fun i => f.adapter.registers (edidAddress block i)) := by
    rw [readEdid, FlakyLine.readRun_of_quiet timeout hf, addresses_block, List.map_map]
    rfl
  refine ⟨fun i hi => ⟨edidAddress?_eq block hi, toNat_edidAddress block i⟩,
    fun other h i hi j hj => edidAddress_ne h hi hj, fun σ _ r => ?_, hserves, fun f values hok =>
      hserves FlakyLine _ _ (FlakyLine.serves timeout f.adapter.registers) f rfl values hok, hquiet⟩
  obtain ⟨reads, hexchanges, hreads⟩ := readEdid_recorded timeout block r
  have hlength : reads.length ≤ 128 := by simpa using hreads.length_le
  refine ⟨reads, hexchanges, ?_, fun i made got hread => ?_, fun values => ?_, fun e => ?_⟩
  · rw [hreads.packets_eq, ← List.map_take, List.take_range, Nat.min_eq_left hlength, List.map_map]
    rfl
  · obtain ⟨address, haddress, hreading⟩ := hreads.reading hread
    obtain ⟨hi, -⟩ := List.getElem?_eq_some_iff.1 hread
    rw [List.getElem?_map, List.getElem?_range (Nat.lt_of_lt_of_le hi hlength)] at haddress
    cases haddress
    exact hreading
  · exact hreads.eq_ok_iff.trans (by rw [List.length_map, List.length_range])
  · refine hreads.eq_error_iff.trans (exists_congr fun k => ⟨?_, And.right⟩)
    rintro ⟨hk, hlast⟩
    exact ⟨by omega, hk, hlast⟩

/-- An adapter in whose registers the low bytes of their addresses stand. -/
def lowBytes : Adapter := { registers := Word.low }

/-- The last block lies behind the end of the address space. It comes from a line on which nothing
goes wrong, and breaks off on one that loses the second request. -/
theorem readEdid_reads_block_last :
    edidAddress? 255 0 = some 0x3F80 ∧ edidAddress 255 0 ≠ edidAddress 0 127 ∧
    (∃ values, (readEdid .zero 255 (FlakyLine.mk lowBytes [])).1 = .ok values ∧
      values = (List.range 128).map fun i => Word.low (edidAddress 255 i)) ∧
    let r : RecordedLine FlakyLine := { line := ⟨lowBytes, [none, none, some ⟨.stall, false⟩]⟩ }
    (readEdid .zero 255 r).1 = .error (.transport .stall) ∧
      ∃ reads : List RecordedRead, (readEdid .zero 255 r).2.exchanges = reads.flatMap Prod.fst ∧
        ∃ k < 128, reads.length = k + 1 ∧
          ∃ made, reads[k]? = some (made, .error (.transport .stall)) ∧
            Reading .zero (edidAddress 255 k) made (.error (.transport .stall)) := by
  obtain ⟨haddress, hapart, hrecorded, hserved, -, hquiet⟩ := readEdid_reads_block .zero 255
  have hread := hquiet (FlakyLine.mk lowBytes []) ⟨rfl, rfl, rfl⟩
  refine ⟨(haddress 0 (by decide)).1, hapart 0 (by decide) 0 (by decide) 127 (by decide),
    ⟨_, hread, ?_⟩, ?_⟩
  · exact hserved FlakyLine Word.low _ (FlakyLine.serves .zero Word.low) _ rfl _ hread
  intro r
  have hlost : (readEdid .zero 255 r).1 = .error (.transport .stall) := rfl
  obtain ⟨reads, hexchanges, -, hreading, -, herror⟩ := hrecorded FlakyLine r
  obtain ⟨k, hk, hlength, ⟨made, hlast⟩, -⟩ := (herror _).1 hlost
  exact ⟨hlost, reads, hexchanges, k, hk, hlength, made, hlast, hreading k made _ hlast⟩

end Register

end UsbDisplay
