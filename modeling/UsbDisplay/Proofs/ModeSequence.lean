import UsbDisplay.Bench.Tap
import UsbDisplay.Proofs.RecordedExchanges

/-!
The packets of a mode set, whatever the line does with each of them. Six writes go out in a fixed
order, up to the first that fails; between the first and the second the status registers are asked
for. What the line answers to that makes no difference: the results of the writes alone decide what
is written and what comes of it (`Register.setMode_sends`).
-/

namespace UsbDisplay

namespace Register

open Word

/-- The packets that set a mode, byte by byte. -/
def modePackets (m : DisplayMode) : List (List UInt8) := [
  [0xA6, 0x04, 0, 0, 0, 0, 0, 0, 0, 0],
  [0xA6, 0x03, 0, 3, 0, 0, 0, 0, 0, 0],
  [0xA6, 0x01, 0, high m.width, low m.width, high m.height, low m.height,
    high m.format.code, low m.format.code, 0],
  [0xA6, 0x02, 0, high m.code, low m.code, high m.width, low m.width, high m.height, low m.height,
    0],
  [0xA6, 0x04, 0, 1, 0, 0, 0, 0, 0, 0],
  [0xA6, 0x05, 0, 1, 0, 0, 0, 0, 0, 0]]

/-- The packets that ask for the status registers. -/
def statusPackets : List (List UInt8) := [
  [0xB5, 0x00, 0x30, 0, 0, 0, 0, 0],
  [0xB5, 0x00, 0x33, 0, 0, 0, 0, 0],
  [0xB5, 0xC6, 0x20, 0, 0, 0, 0, 0]]

theorem packets_modeWrites (m : DisplayMode) : packets (modeWrites m) = modePackets m := by
  simp only [packets, modeWrites, configureWrites, List.map]
  rfl

variable {σ τ : Type} [ControlTransport σ] [ControlTransport τ] {timeout : Duration}

theorem touchAll_recorded (timeout : Duration) (addresses : List UInt16) (r : RecordedLine σ) :
    ∃ made, touchAll timeout addresses r =
        ⟨touchAll timeout addresses r.line, r.exchanges ++ made⟩ ∧
      made.filterMap ControlExchange.packet? = addresses.map readPacket ∧
      made.filterMap ControlExchange.write? = [] := by
  induction addresses generalizing r with
  | nil => exact ⟨[], by simp [touchAll], rfl, rfl⟩
  | cons address rest ih =>
    obtain ⟨made, hread, hreading⟩ := read_recorded timeout address r
    obtain ⟨later, htouch, hpackets, hwrites⟩ := ih (read timeout address r).2
    refine ⟨made ++ later, ?_, ?_, ?_⟩
    · rw [touchAll, htouch, hread]
      simp [RecordedLine.note, touchAll]
    · simp [hreading.packets_eq, hpackets]
    · simp [hreading.writes_eq_nil, hwrites]

theorem WrittenUpTo.head?_eq {m : DisplayMode} {writes : List SentWrite} {result : Except Error Unit}
    (h : WrittenUpTo (modePackets m) writes result) : ∀ w ∈ writes, w.1.head? = some writeMark := by
  intro w hw
  have hmem := h.isPrefix.subset (List.mem_map_of_mem hw)
  have hmarked : ∀ packet ∈ modePackets m, packet.head? = some writeMark := by
    simp [modePackets, writeMark]
  exact hmarked _ hmem

/-- The exchanges of a mode set: a write, the status reads if it was taken, and the other writes. -/
theorem setMode_exchanges (timeout : Duration) (m : DisplayMode) (r : RecordedLine σ) :
    ∃ first status rest,
      setMode timeout m r = r.note (setMode timeout m r.line)
        (writing timeout first :: status ++ rest.map (writing timeout)) ∧
      WrittenUpTo (modePackets m) (first :: rest) (setMode timeout m r.line).1 ∧
      status.filterMap ControlExchange.packet? = (if first.2.isOk then statusPackets else []) ∧
      status.filterMap ControlExchange.write? = [] := by
  rw [← packets_modeWrites]
  obtain ⟨result, hwrite, hwritten⟩ := write_recorded timeout reset zeroPayload r
  simp only [setMode, hwrite]
  generalize write timeout reset zeroPayload r.line = written at *
  obtain ⟨answer, s⟩ := written
  cases hwritten with
  | failed _ _ cause =>
    exact ⟨(_, .error cause), [], [], rfl, .failed _ _ cause, rfl, rfl⟩
  | next _ n later =>
    cases later
    let begun := (r.note ((), s) [writing timeout (writePacket reset zeroPayload, .ok n)]).2
    obtain ⟨status, htouch, hpackets, hwrites⟩ := touchAll_recorded timeout statusRegisters begun
    obtain ⟨made, hrest, hmade⟩ := writeAll_recorded timeout (configureWrites m)
      (touchAll timeout statusRegisters begun)
    have hline : (touchAll timeout statusRegisters begun).line = touchAll timeout statusRegisters s :=
      congrArg RecordedLine.line htouch
    have hexchanges : (touchAll timeout statusRegisters begun).exchanges =
        begun.exchanges ++ status := congrArg RecordedLine.exchanges htouch
    rw [hline] at hrest hmade
    refine ⟨(_, .ok n), status, made, hrest.trans ?_, .next _ n hmade, hpackets, hwrites⟩
    rw [RecordedLine.note, hexchanges]
    simp [RecordedLine.note, begun]

/-- What a mode set writes and asks for. -/
theorem setMode_recorded (timeout : Duration) (m : DisplayMode) (r : RecordedLine σ) :
    ∃ made first rest, setMode timeout m r = r.note (setMode timeout m r.line) made ∧
      made.filterMap ControlExchange.write? = first :: rest ∧
      made.filterMap ControlExchange.packet? =
        first.1 :: (if first.2.isOk then statusPackets else []) ++ rest.map Prod.fst ∧
      WrittenUpTo (modePackets m) (first :: rest) (setMode timeout m r.line).1 := by
  obtain ⟨first, status, rest, hset, hwritten, hpackets, hwrites⟩ := setMode_exchanges timeout m r
  have hmarked := hwritten.head?_eq
  refine ⟨_, first, rest, hset, ?_, ?_, hwritten⟩
  · rw [List.filterMap_append,
      List.filterMap_cons_some (write?_writing timeout (hmarked first List.mem_cons_self)), hwrites,
      filterMap_write?_writing timeout fun w hw => hmarked w (List.mem_cons_of_mem _ hw)]
    rfl
  · rw [List.filterMap_append,
      List.filterMap_cons_some (a := writing timeout first) (b := first.1) rfl, hpackets,
      filterMap_packet?_writing]

/-- A mode set sends a non-empty part of its six packets, from the first on and up to the first that
fails; it succeeds exactly if all six were taken, and fails with what the one write failed with.
Between the first write and the second, the status registers are asked for. Two mode sets whose
writes have the same results, on whatever lines and whatever those answer to the status reads, send
the same writes and end alike. -/
theorem setMode_sends (timeout : Duration) (m : DisplayMode) (s : σ) (t : τ) :
    let done := setMode timeout m (RecordedLine.mk s [])
    let other := setMode timeout m (RecordedLine.mk t [])
    (done.1, done.2.line) = setMode timeout m s ∧
      done.2.writes.map Prod.fst <+: modePackets m ∧
      (∃ first rest, done.2.writes = first :: rest ∧
        done.2.packets =
          first.1 :: (if first.2.isOk then statusPackets else []) ++ rest.map Prod.fst) ∧
      (∀ (k : Nat) packet cause, done.2.writes[k]? = some (packet, .error cause) →
        done.2.writes.length = k + 1) ∧
      (done.1 = .ok () ↔
        done.2.writes.map Prod.fst = modePackets m ∧ ∀ w ∈ done.2.writes, ∃ n, w.2 = .ok n) ∧
      (∀ e, done.1 = .error e ↔
        ∃ packet cause, (packet, .error cause) ∈ done.2.writes ∧ e = .transport cause) ∧
      ((∀ (k : Nat) w w', done.2.writes[k]? = some w → other.2.writes[k]? = some w' →
          w.2 = w'.2) →
        other.2.writes = done.2.writes ∧ other.1 = done.1) := by
  intro done other
  obtain ⟨made, first, rest, hset, hwrites, hpackets, hwritten⟩ :=
    setMode_recorded timeout m (RecordedLine.mk s [])
  obtain ⟨made', first', rest', hset', hwrites', -, hwritten'⟩ :=
    setMode_recorded timeout m (RecordedLine.mk t [])
  have hdone : done = _ := hset
  have hother : other = _ := hset'
  rw [← hwrites] at hwritten
  rw [← hwrites'] at hwritten'
  rw [hdone, hother]
  exact ⟨rfl, hwritten.isPrefix, ⟨first, rest, hwrites, hpackets⟩,
    fun _ _ _ => hwritten.length_of_failed, hwritten.eq_ok_iff, fun _ => hwritten.eq_error_iff,
    hwritten.unique hwritten'⟩

/-- An adapter that does not commit. -/
def uncommitted : Adapter := { faults := { write := some (commit, .stall) } }

/-- One that does not answer reads either. -/
def unreadable : Tap := { adapter := uncommitted, receiveFault := some .timedOut }

theorem setMode_sends_unreadable :
    (setMode .zero .svga unreadable).1 = .error (.transport .stall) ∧
      (setMode .zero .svga (RecordedLine.mk unreadable [])).2.writes.map Prod.fst =
        modePackets .svga := by
  obtain ⟨-, -, -, -, -, herror, hsame⟩ := setMode_sends .zero .svga uncommitted unreadable
  have results : (setMode .zero .svga (RecordedLine.mk unreadable [])).2.writes.map Prod.snd =
      (setMode .zero .svga (RecordedLine.mk uncommitted [])).2.writes.map Prod.snd := rfl
  obtain ⟨hwrites, hend⟩ := hsame fun k w w' hw hw' => by
    have hk := congrArg (·[k]?) results
    simpa [hw, hw', eq_comm] using hk
  refine ⟨hend.trans ((herror _).2 ?_), (congrArg (List.map Prod.fst) hwrites).trans rfl⟩
  exact ⟨_, .stall, List.mem_of_getElem? (i := 5) rfl, rfl⟩

end Register

end UsbDisplay
