import UsbDisplay.Bench.Tap

/-!
What an adapter is told over its control line. Reads tell it nothing. A write is taken or fails, and
a sequence of writes is taken up to the first that fails, so a mode set that succeeds leaves its six
writes in the adapter, and one that fails leaves some of them (`Tap.told_setMode`).
-/

namespace UsbDisplay

namespace Register

@[simp] theorem parse?_writePacket (address : UInt16) (data : Payload) :
    Request.parse? (writePacket address data) = some (.write address data) := by
  obtain ⟨⟨bytes⟩, hsize⟩ := data
  match bytes, hsize with
  | [_, _, _, _, _, _], _ => simp [Request.parse?, writePacket, readMark, writeMark]

/-- A read keeps what each of its two exchanges keeps. -/
theorem read_keeps {σ β : Type} [ControlTransport σ] (f : σ → β) {timeout : Duration}
    {address : UInt16}
    (send : ∀ s, f (ControlTransport.send (.setReport timeout) (readPacket address) s).2 = f s)
    (receive : ∀ s,
      f (ControlTransport.receive (.getReport timeout) (readPacket address) s).2.2 = f s)
    (s : σ) : f (read timeout address s).2 = f s := by
  have hsent := send s
  rw [read]
  generalize ControlTransport.send (.setReport timeout) (readPacket address) s = sent at *
  obtain ⟨_ | n, s'⟩ := sent
  · exact hsent
  have hread := (receive s').trans hsent
  simp only
  generalize ControlTransport.receive (.getReport timeout) (readPacket address) s' = received at *
  obtain ⟨_ | n, buffer, s''⟩ := received
  · exact hread
  simp only
  split <;> exact hread

/-- The writes to all registers but the power register. -/
def otherThanPower (writes : List (UInt16 × Payload)) : List (UInt16 × Payload) :=
  writes.filter (·.1 ≠ power)

/-- What was written to the power register last. -/
def lastPower? (writes : List (UInt16 × Payload)) : Option Payload :=
  (writes.filter (·.1 = power)).getLast?.map Prod.snd

/-- The write that a mode set begins with, and that nothing else makes. -/
def modeSetStart : UInt16 × Payload := (reset, zeroPayload)

theorem power_not_mem_modeWrites (m : DisplayMode) : ∀ w ∈ modeWrites m, w.1 ≠ power := by
  simp [modeWrites, configureWrites, power, reset, prepare, resolution, mode, commit]

theorem modeSetStart_not_mem_configureWrites (m : DisplayMode) :
    modeSetStart ∉ configureWrites m := by
  simp [configureWrites, modeSetStart, reset, prepare, resolution, mode, commit, onePayload,
    zeroPayload]

theorem otherThanPower_append_of_ne {writes more : List (UInt16 × Payload)}
    (h : ∀ w ∈ more, w.1 ≠ power) :
    otherThanPower (writes ++ more) = otherThanPower writes ++ more := by
  rw [otherThanPower, List.filter_append, List.filter_eq_self.2 fun w hw => decide_eq_true (h w hw)]
  rfl

theorem lastPower?_append_of_ne {writes more : List (UInt16 × Payload)}
    (h : ∀ w ∈ more, w.1 ≠ power) : lastPower? (writes ++ more) = lastPower? writes := by
  have hnone : more.filter (·.1 = power) = [] :=
    List.filter_eq_nil_iff.2 fun w hw => by simpa using h w hw
  rw [lastPower?, List.filter_append, hnone, List.append_nil]
  rfl

theorem otherThanPower_append_power (writes : List (UInt16 × Payload)) (data : Payload) :
    otherThanPower (writes ++ [(power, data)]) = otherThanPower writes := by
  simp [otherThanPower]

theorem lastPower?_append_power (writes : List (UInt16 × Payload)) (data : Payload) :
    lastPower? (writes ++ [(power, data)]) = some data := by
  simp [lastPower?]

end Register

open Register

/-! ### What an adapter was told -/

/-- What an adapter was told over its line: the writes that it took, the size that they gave its
picture, and the number of mode sets that were begun. -/
structure Told where
  writes : List (UInt16 × Payload)
  width : Nat
  height : Nat
  begun : Nat

namespace Told

/-- A write goes out. -/
def ask (v : Told) (w : UInt16 × Payload) : Told :=
  { v with begun := if w = modeSetStart then v.begun + 1 else v.begun }

/-- A write is taken. -/
def take (v : Told) (w : UInt16 × Payload) : Told :=
  { v with
    writes := v.writes ++ [w]
    width := if w.1 = resolution then (Word.ofBytes (w.2.get 0) (w.2.get 1)).toNat else v.width
    height := if w.1 = resolution then (Word.ofBytes (w.2.get 2) (w.2.get 3)).toNat else v.height }

def takeAll (v : Told) (writes : List (UInt16 × Payload)) : Told := writes.foldl take v

theorem ask_of_ne {w : UInt16 × Payload} (h : w ≠ modeSetStart) (v : Told) : v.ask w = v := by
  rw [ask, if_neg h]

theorem ask_modeSetStart (v : Told) : v.ask modeSetStart = { v with begun := v.begun + 1 } := by
  rw [ask, if_pos rfl]

theorem writes_takeAll (v : Told) (writes : List (UInt16 × Payload)) :
    (v.takeAll writes).writes = v.writes ++ writes := by
  induction writes generalizing v with
  | nil => exact (List.append_nil _).symm
  | cons w rest ih => exact (ih (v.take w)).trans (List.append_assoc ..)

theorem begun_takeAll (v : Told) (writes : List (UInt16 × Payload)) :
    (v.takeAll writes).begun = v.begun := by
  induction writes generalizing v with
  | nil => rfl
  | cons w rest ih => exact ih (v.take w)

/-- The writes of a mode set give the picture the size of the mode. -/
theorem takeAll_modeWrites (v : Told) (m : DisplayMode) :
    (v.takeAll (modeWrites m)) =
      { v with
        writes := v.writes ++ modeWrites m
        width := m.width.toNat
        height := m.height.toNat } := by
  have hwidth (a b c : UInt16) : Word.ofBytes (Vector.get (wordsPayload a b c) 0)
      (Vector.get (wordsPayload a b c) 1) = a := Word.ofBytes_high_low a
  have hheight (a b c : UInt16) : Word.ofBytes (Vector.get (wordsPayload a b c) 2)
      (Vector.get (wordsPayload a b c) 3) = b := Word.ofBytes_high_low b
  simp [takeAll, modeWrites, configureWrites, take, hwidth, hheight, reset, prepare, resolution,
    mode, commit]

end Told

namespace Adapter

/-- The size that a write to the resolution register gives a picture. -/
def writtenSize (data : Payload) : UInt16 × UInt16 :=
  (Word.ofBytes (data.get 0) (data.get 1), Word.ofBytes (data.get 2) (data.get 3))

/-- A control exchange that goes out fails, or asks for a register, or writes one. -/
theorem controlOut_cases (a : Adapter) (data : List UInt8) :
    (∃ e, a.controlOut data = (.error e, a)) ∨
    (∃ address, Request.parse? data = some (.read address) ∧
      a.controlOut data = (.ok data.length,
        { a with controlLog := a.controlLog.push (.read address), pendingRead := some address })) ∨
    ∃ address payload, Request.parse? data = some (.write address payload) ∧
      a.controlOut data = (.ok data.length, a.applyWrite address payload) := by
  rw [controlOut]
  split
  · exact .inl ⟨_, rfl⟩
  split
  · exact .inl ⟨_, rfl⟩
  next address hparse => exact .inr (.inl ⟨address, hparse, rfl⟩)
  next address payload hparse =>
    split
    · exact .inl ⟨_, rfl⟩
    · exact .inr (.inr ⟨address, payload, hparse, rfl⟩)

/-- An exchange that comes in changes at most what is still to be answered. -/
theorem controlIn_after (a : Adapter) (buffer : List UInt8) :
    ∃ pendingRead, (a.controlIn buffer).2.2 = { a with pendingRead := pendingRead } := by
  rw [controlIn]
  split
  · exact ⟨_, rfl⟩
  split
  · exact ⟨_, rfl⟩
  split
  · exact ⟨_, rfl⟩
  simp only
  split <;> exact ⟨_, rfl⟩

theorem controlOut_writePacket (a : Adapter) (address : UInt16) (data : Payload) :
    (∃ n, a.controlOut (writePacket address data) = (.ok n, a.applyWrite address data)) ∨
      ∃ e, a.controlOut (writePacket address data) = (.error e, a) := by
  have hcases := a.controlOut_cases (writePacket address data)
  rw [parse?_writePacket] at hcases
  rcases hcases with ⟨e, h⟩ | ⟨_, ⟨⟩, -⟩ | ⟨_, _, ⟨⟩, h⟩
  · exact .inr ⟨e, h⟩
  · exact .inl ⟨_, h⟩

theorem writes_applyWrite (a : Adapter) (address : UInt16) (data : Payload) :
    (a.applyWrite address data).writes = a.writes ++ [(address, data)] := by
  have hlog : (a.applyWrite address data).controlLog =
      a.controlLog.push (.write address data) := by
    rw [applyWrite]
    split <;> rfl
  rw [writes, hlog, Array.toList_push, List.filterMap_append]
  rfl

theorem width_applyWrite (a : Adapter) (address : UInt16) (data : Payload) :
    (a.applyWrite address data).frame.width =
      if address = resolution then (Word.ofBytes (data.get 0) (data.get 1)).toNat
      else a.frame.width := by
  rw [applyWrite]
  split <;> rfl

theorem height_applyWrite (a : Adapter) (address : UInt16) (data : Payload) :
    (a.applyWrite address data).frame.height =
      if address = resolution then (Word.ofBytes (data.get 2) (data.get 3)).toNat
      else a.frame.height := by
  rw [applyWrite]
  split <;> rfl

/-- An adapter that has taken the same writes and shows a picture of the same size. -/
structure SameSettings (a b : Adapter) : Prop where
  writes : b.writes = a.writes
  width : b.frame.width = a.frame.width
  height : b.frame.height = a.frame.height

namespace SameSettings

variable {a b c : Adapter}

theorem refl (a : Adapter) : SameSettings a a := ⟨rfl, rfl, rfl⟩

theorem trans (h : SameSettings a b) (h' : SameSettings b c) : SameSettings a c :=
  ⟨h'.writes.trans h.writes, h'.width.trans h.width, h'.height.trans h.height⟩

end SameSettings

theorem sameSettings_controlOut_readPacket (a : Adapter) (address : UInt16) :
    SameSettings a (a.controlOut (readPacket address)).2 := by
  have hcases := a.controlOut_cases (readPacket address)
  rw [parse?_readPacket] at hcases
  rcases hcases with ⟨e, h⟩ | ⟨_, ⟨⟩, h⟩ | ⟨_, _, ⟨⟩, -⟩
  · rw [h]
    exact .refl a
  · rw [h]
    refine ⟨?_, rfl, rfl⟩
    rw [writes, Array.toList_push, List.filterMap_append]
    exact List.append_nil _

theorem sameSettings_controlIn (a : Adapter) (buffer : List UInt8) :
    SameSettings a (a.controlIn buffer).2.2 := by
  obtain ⟨pendingRead, h⟩ := a.controlIn_after buffer
  rw [h]
  exact ⟨rfl, rfl, rfl⟩

end Adapter

namespace Tap

/-- How many mode sets were begun on a line, whatever became of them. -/
def modeSetsBegun (t : Tap) : Nat :=
  t.controlCalls.countP fun call =>
    Request.parse? call.data = some (.write modeSetStart.1 modeSetStart.2)

def told (t : Tap) : Told :=
  ⟨t.adapter.writes, t.adapter.frame.width, t.adapter.frame.height, t.modeSetsBegun⟩

theorem told_eq_of_sameSettings {t t' : Tap} (h : Adapter.SameSettings t.adapter t'.adapter)
    (hbegun : t'.modeSetsBegun = t.modeSetsBegun) : t'.told = t.told := by
  rw [told, told, h.writes, h.width, h.height, hbegun]

/-- A write is asked for in any case, and taken if it does not fail. -/
theorem told_write (timeout : Duration) (address : UInt16) (data : Payload) (t : Tap) :
    ((write timeout address data t).1 = .ok () ∧
        (write timeout address data t).2.told =
          (t.told.ask (address, data)).take (address, data)) ∨
      ∃ e, (write timeout address data t).1 = .error e ∧
        (write timeout address data t).2.told = t.told.ask (address, data) := by
  have hbegun : ∀ a, modeSetsBegun { t with
      controlCalls := t.controlCalls.push ⟨false, .setReport timeout, writePacket address data⟩
      adapter := a } = (t.told.ask (address, data)).begun := by
    intro a
    simp only [modeSetsBegun, Array.countP_push, parse?_writePacket, Option.some.injEq,
      Request.write.injEq, decide_eq_true_eq, Told.ask, told, Prod.ext_iff]
    split <;> rfl
  simp only [write, ControlTransport.send]
  rcases t.adapter.controlOut_writePacket address data with ⟨n, htaken⟩ | ⟨e, hfailed⟩
  · refine .inl ?_
    rw [htaken]
    refine ⟨rfl, ?_⟩
    rw [told, hbegun]
    simp only [Adapter.writes_applyWrite, Adapter.width_applyWrite, Adapter.height_applyWrite]
    rfl
  · refine .inr ⟨.transport e, ?_⟩
    rw [hfailed]
    refine ⟨rfl, ?_⟩
    rw [told, hbegun]
    rfl

/-- A read tells the adapter nothing, whatever comes of it. -/
@[simp] theorem told_read (timeout : Duration) (address : UInt16) (t : Tap) :
    (Register.read timeout address t).2.told = t.told := by
  have hbegun : ∀ (t : Tap) isReceive request, modeSetsBegun { t with
      controlCalls := t.controlCalls.push ⟨isReceive, request, readPacket address⟩ } =
        t.modeSetsBegun := by
    intro t isReceive request
    simp [modeSetsBegun]
  refine read_keeps told (fun t => ?_) (fun t => ?_) t
  · exact told_eq_of_sameSettings (t.adapter.sameSettings_controlOut_readPacket address)
      (hbegun t _ _)
  · simp only [ControlTransport.receive]
    split
    · exact told_eq_of_sameSettings (.refl _) (hbegun t _ _)
    · exact told_eq_of_sameSettings (t.adapter.sameSettings_controlIn _) (hbegun t _ _)

@[simp] theorem told_touchAll (timeout : Duration) (addresses : List UInt16) (t : Tap) :
    (touchAll timeout addresses t).told = t.told := by
  induction addresses generalizing t with
  | nil => rfl
  | cons address rest ih => exact (ih _).trans (t.told_read timeout address)

@[simp] theorem told_connectorStatus (timeout : Duration) (t : Tap) :
    (connectorStatus timeout t).2.told = t.told := by
  have hread := t.told_read timeout connector
  rw [connectorStatus]
  split
  next heq => rw [heq] at hread; exact hread
  next heq => rw [heq] at hread; exact hread

theorem told_readRun (timeout : Duration) (n : Nat) (address : UInt16) (t : Tap) :
    (readRun timeout n address t).2.told = t.told := by
  induction n generalizing address t with
  | zero => rfl
  | succ n ih =>
    have hread := t.told_read timeout address
    rw [readRun]
    split
    next heq => rw [heq] at hread; exact hread
    next value t' heq =>
      rw [heq] at hread
      have hrest := (ih (address + 1) t').trans hread
      split
      next heq' => rw [heq'] at hrest; exact hrest
      next heq' => rw [heq'] at hrest; exact hrest

/-- The writes of a list are taken up to the first that fails. -/
theorem told_writeAll (timeout : Duration) {writes : List (UInt16 × Payload)}
    (hstart : modeSetStart ∉ writes) (t : Tap) :
    ((writeAll timeout writes t).1 = .ok () ∧
        (writeAll timeout writes t).2.told = t.told.takeAll writes) ∨
      ∃ e taken, (writeAll timeout writes t).1 = .error e ∧ taken <+: writes ∧
        (writeAll timeout writes t).2.told = t.told.takeAll taken := by
  induction writes generalizing t with
  | nil => exact .inl ⟨rfl, rfl⟩
  | cons w rest ih =>
    obtain ⟨address, data⟩ := w
    have hask : t.told.ask (address, data) = t.told :=
      Told.ask_of_ne (fun h => hstart (h ▸ List.mem_cons_self)) _
    have hwrite := t.told_write timeout address data
    rw [hask] at hwrite
    rw [writeAll]
    generalize write timeout address data t = written at *
    obtain ⟨result, t'⟩ := written
    rcases hwrite with ⟨rfl, htold⟩ | ⟨e, rfl, htold⟩
    · rcases ih (fun h => hstart (List.mem_cons_of_mem _ h)) t' with
        ⟨hok, hrest⟩ | ⟨e, taken, herror, hprefix, hrest⟩
      · exact .inl ⟨hok, hrest.trans (htold ▸ rfl)⟩
      · refine .inr ⟨e, _ :: taken, herror, List.cons_prefix_cons.2 ⟨rfl, hprefix⟩, ?_⟩
        exact hrest.trans (htold ▸ rfl)
    · exact .inr ⟨e, [], rfl, List.nil_prefix, htold⟩

/-- A mode set that succeeds has all its writes taken; one that fails has some of them taken. -/
theorem told_setMode (timeout : Duration) (m : DisplayMode) (t : Tap) :
    ((setMode timeout m t).1 = .ok () ∧
        (setMode timeout m t).2.told = (t.told.ask modeSetStart).takeAll (modeWrites m)) ∨
      ∃ e taken, (setMode timeout m t).1 = .error e ∧ taken <+: modeWrites m ∧
        (setMode timeout m t).2.told = (t.told.ask modeSetStart).takeAll taken := by
  have hstart := t.told_write timeout reset zeroPayload
  rw [setMode]
  generalize write timeout reset zeroPayload t = written at *
  obtain ⟨result, t'⟩ := written
  rcases hstart with ⟨rfl, htold⟩ | ⟨e, rfl, htold⟩
  · rcases told_writeAll timeout (modeSetStart_not_mem_configureWrites m)
      (touchAll timeout statusRegisters t') with
      ⟨hok, hrest⟩ | ⟨e, taken, herror, hprefix, hrest⟩
    · refine .inl ⟨hok, hrest.trans ?_⟩
      rw [told_touchAll, htold]
      rfl
    · refine .inr ⟨e, _ :: taken, herror, List.cons_prefix_cons.2 ⟨rfl, hprefix⟩, hrest.trans ?_⟩
      rw [told_touchAll, htold]
      rfl
  · exact .inr ⟨e, [], rfl, List.nil_prefix, htold⟩

end Tap

end UsbDisplay
