import UsbDisplay.Proofs.RegisterAnswers

/-!
Lines on which any exchange may fail, before the adapter has taken it or after. What is reported as
a success has been one, so a mode set that succeeds leaves its six writes in the adapter
(`FlakyLine.told_setMode`). Reads tell the adapter nothing, and a power switch leaves the size of
the picture, whatever is reported of them.
-/

namespace UsbDisplay

open Register

/-- What goes wrong with an exchange. -/
structure Mishap where
  cause : TransportError
  /-- Whether the adapter has taken the exchange nonetheless. -/
  arrives : Bool

/-- A line to a simulated adapter on which any exchange may fail. -/
structure FlakyLine where
  adapter : Adapter := {}
  /-- What goes wrong with the exchanges to come, in order. -/
  mishaps : List (Option Mishap) := []

namespace FlakyLine

/-- The adapter after an exchange that `taken` is the answer to. -/
def after (f : FlakyLine) (taken : Adapter) : FlakyLine :=
  { adapter :=
      match f.mishaps.headD none with
      | none => taken
      | some mishap => if mishap.arrives then taken else f.adapter
    mishaps := f.mishaps.tail }

/-- What is reported of an exchange. -/
def report (f : FlakyLine) (result : Except TransportError Nat) : Except TransportError Nat :=
  match f.mishaps.headD none with
  | none => result
  | some mishap => .error mishap.cause

instance : ControlTransport FlakyLine where
  send _ data f :=
    let (result, adapter) := f.adapter.controlOut data
    (f.report result, f.after adapter)
  receive _ buffer f :=
    let (result, filled, adapter) := f.adapter.controlIn buffer
    (f.report result, filled, f.after adapter)

theorem adapter_after (f : FlakyLine) (taken : Adapter) :
    (f.after taken).adapter = taken ∨ (f.after taken).adapter = f.adapter := by
  rw [after]
  split
  · exact .inl rfl
  split
  · exact .inl rfl
  · exact .inr rfl

/-- What is reported as a success has been one. -/
theorem of_report {f : FlakyLine} {result : Except TransportError Nat} {n : Nat}
    (h : f.report result = .ok n) (taken : Adapter) :
    result = .ok n ∧ (f.after taken).adapter = taken := by
  rw [report] at h
  rw [after]
  split at h
  · exact ⟨h, rfl⟩
  · cases h

/-- What the adapter has taken. -/
def told (f : FlakyLine) : Told := ⟨f.adapter.writes, f.adapter.frame.width, f.adapter.frame.height, 0⟩

variable {timeout : Duration}

theorem told_eq_of_adapter {f f' : FlakyLine} (h : f'.adapter = f.adapter) : f'.told = f.told := by
  rw [told, told, h]

theorem told_of_applyWrite {f f' : FlakyLine} {address : UInt16} {data : Payload}
    (h : f'.adapter = f.adapter.applyWrite address data) :
    f'.told = f.told.take (address, data) := by
  rw [told, h, Adapter.writes_applyWrite, Adapter.width_applyWrite, Adapter.height_applyWrite]
  rfl

/-- A write that succeeds has been taken; one that fails may have been. -/
theorem told_write (timeout : Duration) (address : UInt16) (data : Payload) (f : FlakyLine) :
    (Register.write timeout address data f).2.told = f.told.take (address, data) ∨
      (Register.write timeout address data f).1 ≠ .ok () ∧
        (Register.write timeout address data f).2.told = f.told := by
  simp only [Register.write, ControlTransport.send]
  rcases f.adapter.controlOut_writePacket address data with ⟨n, h⟩ | ⟨e, h⟩
  · rw [h]
    cases hreport : f.report (.ok n) with
    | ok n' => exact .inl (told_of_applyWrite (of_report hreport _).2)
    | error cause =>
      rcases f.adapter_after (f.adapter.applyWrite address data) with htaken | hlost
      · exact .inl (told_of_applyWrite htaken)
      · refine .inr ⟨fun hok => ?_, told_eq_of_adapter hlost⟩
        cases hok
  · rw [h]
    have hsame : (f.after f.adapter).adapter = f.adapter := (f.adapter_after _).elim id id
    cases hreport : f.report (.error e) with
    | ok n => cases (of_report hreport f.adapter).1
    | error cause =>
      refine .inr ⟨fun hok => ?_, told_eq_of_adapter hsame⟩
      cases hok

theorem told_after {f : FlakyLine} {taken : Adapter} (h : Adapter.SameSettings f.adapter taken) :
    (f.after taken).told = f.told := by
  rcases f.adapter_after taken with htaken | hlost
  · rw [told, told, htaken, h.writes, h.width, h.height]
  · exact told_eq_of_adapter hlost

theorem told_read (address : UInt16) (f : FlakyLine) :
    (Register.read timeout address f).2.told = f.told :=
  read_keeps told (fun f => told_after (f.adapter.sameSettings_controlOut_readPacket address))
    (fun f => told_after (f.adapter.sameSettings_controlIn _)) f

theorem told_performAll {accesses : List Access} (h : ∀ a ∈ accesses, a.isRead) (f : FlakyLine) :
    (Access.performAll timeout accesses f).told = f.told := by
  induction accesses generalizing f with
  | nil => rfl
  | cons a rest ih =>
    cases a with
    | read address =>
      exact (ih (fun a ha => h a (List.mem_cons_of_mem _ ha)) _).trans (f.told_read address)
    | write address data => cases h _ List.mem_cons_self

/-- Calls that only read tell the adapter nothing. -/
theorem told_line_perform (timeout : Duration) {c : RegisterCall}
    (h : ∀ a ∈ c.accesses, a.isRead) (r : RecordedLine FlakyLine) :
    (c.perform timeout r).line.told = r.line.told := by
  obtain ⟨performed, hperformed, hperform⟩ := c.perform_eq timeout r
  rw [hperform, RecordedLine.line_performAll]
  exact told_performAll (fun a ha => h a (hperformed.subset ha)) r.line

theorem told_touchAll (addresses : List UInt16) (f : FlakyLine) :
    (touchAll timeout addresses f).told = f.told := by
  rw [RegisterCall.touchAll_eq]
  refine told_performAll (fun a ha => ?_) f
  obtain ⟨address, -, rfl⟩ := List.mem_map.1 ha
  rfl

theorem told_writeAll {writes : List (UInt16 × Payload)} {f : FlakyLine}
    (h : (writeAll timeout writes f).1 = .ok ()) :
    (writeAll timeout writes f).2.told = f.told.takeAll writes := by
  induction writes generalizing f with
  | nil => rfl
  | cons w rest ih =>
    obtain ⟨address, data⟩ := w
    have hwrite := f.told_write timeout address data
    rw [writeAll] at h ⊢
    generalize Register.write timeout address data f = written at *
    obtain ⟨_ | _, f'⟩ := written
    · cases h
    · rcases hwrite with htold | ⟨hne, -⟩
      · exact (ih h).trans (congrArg (Told.takeAll · rest) htold)
      · exact absurd rfl hne

/-- A mode set that succeeds gives the picture the size of the mode. -/
theorem told_setMode {m : DisplayMode} {f : FlakyLine}
    (h : (Register.setMode timeout m f).1 = .ok ()) :
    (Register.setMode timeout m f).2.told = f.told.takeAll (modeWrites m) := by
  have hwrite := f.told_write timeout reset zeroPayload
  rw [Register.setMode] at h ⊢
  generalize Register.write timeout reset zeroPayload f = written at *
  obtain ⟨_ | _, f'⟩ := written
  · cases h
  · rcases hwrite with htold | ⟨hne, -⟩
    · rw [told_writeAll h, told_touchAll, htold, modeWrites, Told.takeAll, Told.takeAll,
        List.foldl_cons]
    · exact absurd rfl hne

/-- A power switch leaves the size of the picture, whether it is taken or not. -/
theorem size_write_power (timeout : Duration) (data : Payload) (f : FlakyLine) :
    (Register.write timeout Register.power data f).2.adapter.frame.width = f.adapter.frame.width ∧
      (Register.write timeout Register.power data f).2.adapter.frame.height =
        f.adapter.frame.height := by
  have htake (v : Told) : (v.take (Register.power, data)).width = v.width ∧
      (v.take (Register.power, data)).height = v.height := ⟨rfl, rfl⟩
  rcases f.told_write timeout Register.power data with htold | ⟨-, htold⟩
  · exact ⟨(congrArg Told.width htold).trans (htake f.told).1,
      (congrArg Told.height htold).trans (htake f.told).2⟩
  · exact ⟨congrArg Told.width htold, congrArg Told.height htold⟩

end FlakyLine

end UsbDisplay
