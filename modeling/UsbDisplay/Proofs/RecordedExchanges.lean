import UsbDisplay.Register.Link

/-!
Control lines on which every exchange is written down. The record makes no difference to what is
done on the line (`RecordedLine.note`). A register read leaves one or two exchanges, and they decide
what it gives (`Register.Reading`); writes leave one exchange each, up to the first that fails, and
that one decides what comes of all of them (`Register.WrittenUpTo`).
-/

namespace UsbDisplay

/-- A control exchange with what came of it. -/
inductive ControlExchange where
  | sent (request : ControlRequest) (packet : List UInt8) (result : Except TransportError Nat)
  /-- The buffer went in as `buffer` and came back as `filled`. -/
  | received (request : ControlRequest) (buffer filled : List UInt8)
    (result : Except TransportError Nat)

namespace ControlExchange

def result : ControlExchange → Except TransportError Nat
  | sent _ _ result | received _ _ _ result => result

/-- The packet that went out. -/
def packet? : ControlExchange → Option (List UInt8)
  | sent _ packet _ => some packet
  | received .. => none

end ControlExchange

/-- A write packet that went out, with what came of it. -/
abbrev SentWrite := List UInt8 × Except TransportError Nat

def ControlExchange.write? : ControlExchange → Option SentWrite
  | sent _ packet result =>
    if packet.head? = some Register.writeMark then some (packet, result) else none
  | received .. => none

/-- A line with the exchanges that went over it, oldest first. -/
structure RecordedLine (σ : Type) where
  line : σ
  exchanges : List ControlExchange := []

namespace RecordedLine

variable {σ α : Type}

instance [ControlTransport σ] : ControlTransport (RecordedLine σ) where
  send request data r :=
    let (result, line) := ControlTransport.send request data r.line
    (result, ⟨line, r.exchanges ++ [.sent request data result]⟩)
  receive request buffer r :=
    let (result, filled, line) := ControlTransport.receive request buffer r.line
    (result, filled, ⟨line, r.exchanges ++ [.received request buffer filled result]⟩)

/-- What was done on the line, with the exchanges that were made for it. -/
def note (r : RecordedLine σ) (done : α × σ) (made : List ControlExchange) : α × RecordedLine σ :=
  (done.1, ⟨done.2, r.exchanges ++ made⟩)

/-- The packets that went out. -/
def packets (r : RecordedLine σ) : List (List UInt8) :=
  r.exchanges.filterMap ControlExchange.packet?

/-- The write packets that went out, with what came of them. -/
def writes (r : RecordedLine σ) : List SentWrite := r.exchanges.filterMap ControlExchange.write?

end RecordedLine

namespace Register

variable {σ : Type} [ControlTransport σ]

/-! ### Reads -/

/-- The exchanges of a read, and what the read gives. -/
inductive Reading (timeout : Duration) (address : UInt16) :
    List ControlExchange → Except Error UInt8 → Prop
  | unsent (cause : TransportError) :
    Reading timeout address [.sent (.setReport timeout) (readPacket address) (.error cause)]
      (.error (.transport cause))
  | unanswered (n : Nat) (filled : List UInt8) (cause : TransportError) :
    Reading timeout address
      [.sent (.setReport timeout) (readPacket address) (.ok n),
        .received (.getReport timeout) (readPacket address) filled (.error cause)]
      (.error (.transport cause))
  | empty (n : Nat) (filled : List UInt8) :
    Reading timeout address
      [.sent (.setReport timeout) (readPacket address) (.ok n),
        .received (.getReport timeout) (readPacket address) filled (.ok 0)]
      (.error (.shortRead address))
  | answered (n count : Nat) (filled : List UInt8) (some_bytes : count ≠ 0) :
    Reading timeout address
      [.sent (.setReport timeout) (readPacket address) (.ok n),
        .received (.getReport timeout) (readPacket address) filled (.ok count)]
      (.ok (filled.headD 0))

theorem read_recorded (timeout : Duration) (address : UInt16) (r : RecordedLine σ) :
    ∃ made, read timeout address r = r.note (read timeout address r.line) made ∧
      Reading timeout address made (read timeout address r.line).1 := by
  simp only [read, ControlTransport.send]
  generalize ControlTransport.send (.setReport timeout) (readPacket address) r.line = sent
  obtain ⟨cause | n, s⟩ := sent
  · exact ⟨_, rfl, .unsent cause⟩
  simp only [ControlTransport.receive]
  generalize ControlTransport.receive (.getReport timeout) (readPacket address) s = received
  obtain ⟨cause | count, filled, s'⟩ := received
  · exact ⟨_, by simp [RecordedLine.note], .unanswered n filled cause⟩
  by_cases hcount : count = 0
  · subst hcount
    exact ⟨_, by simp [RecordedLine.note], .empty n filled⟩
  · simp only [if_neg hcount]
    exact ⟨_, by simp [RecordedLine.note], .answered n count filled hcount⟩

namespace Reading

variable {timeout : Duration} {address : UInt16} {made : List ControlExchange}
  {result : Except Error UInt8}

theorem packets_eq (h : Reading timeout address made result) :
    made.filterMap ControlExchange.packet? = [readPacket address] := by
  cases h <;> rfl

theorem writes_eq_nil (h : Reading timeout address made result) :
    made.filterMap ControlExchange.write? = [] := by
  cases h <;> rfl

/-- The answer came without a byte. -/
theorem eq_shortRead_iff (h : Reading timeout address made result) :
    result = .error (.shortRead address) ↔
      ∃ request buffer filled, .received request buffer filled (.ok 0) ∈ made := by
  cases h with
  | unsent cause => simp
  | unanswered n filled cause => simp
  | empty n filled => simp
  | answered n count filled some_bytes => simp [Ne.symm some_bytes]

/-- The request or the answer failed. -/
theorem eq_transport_iff (h : Reading timeout address made result) {cause : TransportError} :
    result = .error (.transport cause) ↔ ∃ x ∈ made, x.result = .error cause := by
  cases h <;> simp [ControlExchange.result]

theorem eq_error (h : Reading timeout address made result) {e : Error} (failed : result = .error e) :
    e = .shortRead address ∨ ∃ cause, e = .transport cause := by
  cases h with
  | unsent cause => exact .inr ⟨cause, (Except.error.inj failed).symm⟩
  | unanswered n filled cause => exact .inr ⟨cause, (Except.error.inj failed).symm⟩
  | empty n filled => exact .inl (Except.error.inj failed).symm
  | answered => cases failed

end Reading

/-! ### Writes -/

/-- Packets went out in order, up to the first that failed, and this came of it. -/
inductive WrittenUpTo : List (List UInt8) → List SentWrite → Except Error Unit → Prop
  | done : WrittenUpTo [] [] (.ok ())
  | failed (packet : List UInt8) (rest : List (List UInt8)) (cause : TransportError) :
    WrittenUpTo (packet :: rest) [(packet, .error cause)] (.error (.transport cause))
  | next (packet : List UInt8) (n : Nat) {rest : List (List UInt8)} {writes : List SentWrite}
    {result : Except Error Unit} (later : WrittenUpTo rest writes result) :
    WrittenUpTo (packet :: rest) ((packet, .ok n) :: writes) result

/-- The exchange of a write. -/
def writing (timeout : Duration) (w : SentWrite) : ControlExchange :=
  .sent (.setReport timeout) w.1 w.2

theorem write_recorded (timeout : Duration) (address : UInt16) (data : Payload)
    (r : RecordedLine σ) :
    ∃ result, write timeout address data r =
        r.note (write timeout address data r.line)
          [writing timeout (writePacket address data, result)] ∧
      WrittenUpTo [writePacket address data] [(writePacket address data, result)]
        (write timeout address data r.line).1 := by
  simp only [write, ControlTransport.send]
  generalize ControlTransport.send (.setReport timeout) (writePacket address data) r.line = sent
  obtain ⟨cause | n, s⟩ := sent
  · exact ⟨_, rfl, .failed _ _ cause⟩
  · exact ⟨_, rfl, .next _ n .done⟩

theorem filterMap_packet?_writing (timeout : Duration) (writes : List SentWrite) :
    (writes.map (writing timeout)).filterMap ControlExchange.packet? = writes.map Prod.fst := by
  have hsent : ControlExchange.packet? ∘ writing timeout = some ∘ Prod.fst := rfl
  rw [List.filterMap_map, hsent, List.filterMap_eq_map]

theorem write?_writing (timeout : Duration) {w : SentWrite} (h : w.1.head? = some writeMark) :
    (writing timeout w).write? = some w := if_pos h

theorem filterMap_write?_writing (timeout : Duration) {writes : List SentWrite}
    (h : ∀ w ∈ writes, w.1.head? = some writeMark) :
    (writes.map (writing timeout)).filterMap ControlExchange.write? = writes := by
  induction writes with
  | nil => rfl
  | cons w rest ih =>
    rw [List.map_cons, List.filterMap_cons_some (write?_writing timeout (h w List.mem_cons_self)),
      ih fun w hw => h w (List.mem_cons_of_mem _ hw)]

/-- The packets that carry out writes. -/
def packets (writes : List (UInt16 × Payload)) : List (List UInt8) :=
  writes.map fun w => writePacket w.1 w.2

theorem writeAll_recorded (timeout : Duration) (writes : List (UInt16 × Payload))
    (r : RecordedLine σ) :
    ∃ made, writeAll timeout writes r =
        r.note (writeAll timeout writes r.line) (made.map (writing timeout)) ∧
      WrittenUpTo (packets writes) made (writeAll timeout writes r.line).1 := by
  induction writes generalizing r with
  | nil => exact ⟨[], by simp [writeAll, RecordedLine.note], .done⟩
  | cons w rest ih =>
    obtain ⟨address, data⟩ := w
    obtain ⟨result, hwrite, hwritten⟩ := write_recorded timeout address data r
    simp only [writeAll, hwrite]
    generalize write timeout address data r.line = written at *
    obtain ⟨answer, s⟩ := written
    cases hwritten with
    | failed _ _ cause => exact ⟨_, rfl, .failed _ _ cause⟩
    | next _ n later =>
      cases later
      obtain ⟨made, hrest, hmade⟩ := ih (r.note ((), s) [writing timeout (_, .ok n)]).2
      exact ⟨_ :: made, by simpa [RecordedLine.note] using hrest, .next _ n hmade⟩

namespace WrittenUpTo

variable {packets : List (List UInt8)} {writes : List SentWrite} {result : Except Error Unit}

theorem isPrefix (h : WrittenUpTo packets writes result) : writes.map Prod.fst <+: packets := by
  induction h with
  | done => exact List.nil_prefix
  | failed packet rest cause => exact List.cons_prefix_cons.2 ⟨rfl, List.nil_prefix⟩
  | next packet n later ih => exact List.cons_prefix_cons.2 ⟨rfl, ih⟩

theorem ne_nil (h : WrittenUpTo packets writes result) (some_packets : packets ≠ []) :
    writes ≠ [] := by
  cases h with
  | done => exact absurd rfl some_packets
  | failed => exact List.cons_ne_nil _ _
  | next => exact List.cons_ne_nil _ _

/-- A write that failed is the last. -/
theorem length_of_failed (h : WrittenUpTo packets writes result) {k : Nat} {packet : List UInt8}
    {cause : TransportError} (failed : writes[k]? = some (packet, .error cause)) :
    writes.length = k + 1 := by
  induction h generalizing k with
  | done => cases failed
  | failed =>
    cases k with
    | zero => rfl
    | succ k => cases failed
  | next _ n later ih =>
    cases k with
    | zero => cases failed
    | succ k => exact congrArg (· + 1) (ih failed)

/-- Nothing has failed exactly if all packets went out and were taken. -/
theorem eq_ok_iff (h : WrittenUpTo packets writes result) :
    result = .ok () ↔ writes.map Prod.fst = packets ∧ ∀ w ∈ writes, ∃ n, w.2 = .ok n := by
  induction h with
  | done => simp
  | failed packet rest cause => simp
  | next packet n later ih => simp [ih]

/-- What has failed is a write that went out. -/
theorem eq_error_iff (h : WrittenUpTo packets writes result) {e : Error} :
    result = .error e ↔
      ∃ packet cause, (packet, .error cause) ∈ writes ∧ e = .transport cause := by
  induction h with
  | done => simp
  | failed packet rest cause =>
    constructor
    · rintro ⟨⟩
      exact ⟨packet, cause, List.mem_singleton_self _, rfl⟩
    · rintro ⟨_, _, hmem, rfl⟩
      cases List.mem_singleton.1 hmem
      rfl
  | next packet n later ih => simp [ih]

theorem ne_unsupportedMode (h : WrittenUpTo packets writes result) (width height hertz : Nat) :
    result ≠ .error (.unsupportedMode width height hertz) := by
  intro hresult
  obtain ⟨packet, cause, -, hcause⟩ := h.eq_error_iff.1 hresult
  cases hcause

/-- The results of the writes decide which packets go out, and what comes of it. -/
theorem unique (h : WrittenUpTo packets writes result) {writes' : List SentWrite}
    {result' : Except Error Unit} (h' : WrittenUpTo packets writes' result')
    (same : ∀ (k : Nat) (w w' : SentWrite), writes[k]? = some w → writes'[k]? = some w' →
      w.2 = w'.2) :
    writes' = writes ∧ result' = result := by
  induction h generalizing writes' with
  | done =>
    cases h'
    exact ⟨rfl, rfl⟩
  | failed packet rest cause =>
    cases h' with
    | failed _ _ cause' =>
      cases same 0 _ _ rfl rfl
      exact ⟨rfl, rfl⟩
    | next _ n later => cases same 0 _ _ rfl rfl
  | next packet n later ih =>
    cases h' with
    | failed _ _ cause => cases same 0 _ _ rfl rfl
    | next _ n' later' =>
      cases same 0 _ _ rfl rfl
      obtain ⟨rfl, rfl⟩ := ih later' fun k w w' hw hw' => same (k + 1) w w' hw hw'
      exact ⟨rfl, rfl⟩

end WrittenUpTo

end Register

end UsbDisplay
