import UsbDisplay.Proofs.AdapterSettings
import UsbDisplay.Proofs.PictureShown

/-!
What a device knows of the mode and the power of its adapter. Setup calls, register reads and frames
come in any order, and between them the line gets faults and loses them again, so that a mode set
may fail at any of its writes. Still the known mode is the one that the adapter was set to by the
last writes it took, no mode is known exactly after a mode set that failed, and the device knows the
power to be on exactly if the last write to the power register switched it on
(`Console.knows_run`).
-/

namespace UsbDisplay

open Register

/-! ### What frames leave alone -/

namespace Adapter

theorem sameSettings_paint (a : Adapter) (packet : ByteArray) :
    SameSettings a (a.paint packet).2 := by
  rw [paint]
  split
  · exact .refl a
  next u _ => exact ⟨rfl, Frame.width_paint .., Frame.height_paint ..⟩

theorem sameSettings_of_cases {a : Adapter} {packet : ByteArray}
    {r : Option (Except TransportError Nat) × Adapter}
    (hr : r = (none, a) ∨ (∃ e, r = (some (.error e), a)) ∨
      r = (some (a.paint packet).1, (a.paint packet).2)) : SameSettings a r.2 := by
  rcases hr with rfl | ⟨e, rfl⟩ | rfl
  · exact .refl a
  · exact .refl a
  · exact a.sameSettings_paint packet

/-- What the adapter does by itself, painting included, changes no setting. -/
theorem sameSettings_move (a : Adapter) (s : Scheduler) (mv : LineMove) :
    SameSettings a (a.move s mv).2 := by
  cases mv with
  | call i =>
    rw [move]
    split
    · exact .refl a
    next t _ => exact sameSettings_of_cases (a.bulkOut_cases t.packet _)
  | resume i =>
    rw [move]
    split
    · exact .refl a
    next t _ => exact sameSettings_of_cases (a.resume_cases ⟨⟨0, i⟩, t.packet, false, _⟩)
  | deadline i => exact .refl a
  | faults f => exact ⟨rfl, rfl, rfl⟩

theorem sameSettings_play (a : Adapter) (s : Scheduler) (moves : List LineMove) :
    SameSettings a (a.play s moves).2 := by
  induction moves generalizing a s with
  | nil => exact .refl a
  | cons mv rest ih =>
    have hmove := a.sameSettings_move s mv
    rw [play]
    generalize a.move s mv = r at *
    obtain ⟨_ | e, a'⟩ := r
    · exact hmove.trans (ih a' s)
    · exact hmove.trans (ih a' (s.react e))

end Adapter

namespace Device

/-- A device with the same mode and power. -/
structure SameSetup (d d' : Device) : Prop where
  mode : d'.mode = d.mode
  powered : d'.powered = d.powered

theorem sameSetup_handOver (d : Device) (i : SlotId)
    (encoded : Except Error (Nat × TransferBuffer)) : SameSetup d (d.handOver i encoded).2 := by
  unfold handOver
  split
  · exact ⟨rfl, rfl⟩
  simp only
  split <;> exact ⟨rfl, rfl⟩

theorem sameSetup_send (d : Device) (fb : Framebuffer) (rect : Rect) (i : SlotId) :
    SameSetup d (d.send fb rect i).2 := by
  rw [send_eq]
  split
  · exact ⟨rfl, rfl⟩
  split
  · exact ⟨rfl, rfl⟩
  next scheduler _ _ _ _ =>
    have hgiven := sameSetup_handOver { d with scheduler := scheduler } i
    exact ⟨(hgiven _).mode, (hgiven _).powered⟩

theorem sameSetup_submitMerged (d : Device) (fb : Framebuffer) (merged : Rect) (now : Duration) :
    SameSetup d (d.submitMerged fb merged now).2 := by
  obtain ⟨lost, damage, htake⟩ := d.takeLost_eq d.active.other
  have hsend := sameSetup_send { d with inFlightDamage := damage } fb
    ((merged ∪ lost).align fb.width fb.height) d.active
  rw [submitMerged_eq]
  simp only [htake, book]
  split
  next heq => rw [heq] at hsend; exact ⟨hsend.mode, hsend.powered⟩
  next heq => rw [heq] at hsend; exact ⟨hsend.mode, hsend.powered⟩

theorem sameSetup_submitGathered (d : Device) (fb : Framebuffer) (merged : Rect) (now : Duration)
    (meanwhile : Scheduler → List Scheduler.Event) :
    SameSetup d (d.submitGathered fb merged now meanwhile).2 := by
  rw [submitGathered_eq]
  split
  · exact ⟨rfl, rfl⟩
  split
  · exact ⟨rfl, rfl⟩
  next s _ =>
    have hmerged := sameSetup_submitMerged { d with scheduler := s } fb merged now
    exact ⟨hmerged.mode, hmerged.powered⟩

/-- Frames change neither the mode nor the power. -/
theorem sameSetup_submitFrame (d : Device) (fb : Framebuffer) (damage : Rect) (now : Duration)
    (meanwhile : Scheduler → List Scheduler.Event) :
    SameSetup d (d.submitFrame fb damage now meanwhile).2 := by
  cases hpace : d.isThrottled now with
  | true =>
    rw [submitFrame_of_throttled d fb damage meanwhile hpace]
    exact ⟨rfl, rfl⟩
  | false =>
    generalize hpoll : d.scheduler.poll d.active.other = polled
    obtain ⟨_ | _, s⟩ := polled
    · rw [submitFrame_of_busy fb damage _ hpace hpoll]
      have hrest := sameSetup_submitGathered { d with scheduler := s } fb (d.pending ∪ damage) now
        meanwhile
      exact ⟨hrest.mode, hrest.powered⟩
    · obtain ⟨lost, inFlight, htake⟩ := { d with scheduler := s }.takeLost_eq d.active.other
      rw [submitFrame_of_idle fb damage _ hpace hpoll htake]
      have hrest := sameSetup_submitGathered { d with scheduler := s, inFlightDamage := inFlight }
        fb (d.pending ∪ damage ∪ lost) now meanwhile
      exact ⟨hrest.mode, hrest.powered⟩

end Device

theorem Station.sameSetup_act (s : Station) (a : Station.Action) :
    s.device.SameSetup (s.act a).device ∧ Adapter.SameSettings s.adapter (s.act a).adapter := by
  cases a with
  | submit fb damage now meanwhile =>
    refine ⟨Device.sameSetup_submitFrame .., ?_⟩
    simp only [act, submit]
    split
    · exact s.adapter.sameSettings_play _ meanwhile
    · exact .refl _
  | waitIdle meanwhile =>
    refine ⟨⟨rfl, rfl⟩, ?_⟩
    have hfirst := s.adapter.sameSettings_play s.device.scheduler meanwhile.first
    simp only [act, waitIdle]
    generalize s.adapter.play s.device.scheduler meanwhile.first = played at *
    split
    · exact hfirst.trans (played.2.sameSettings_play _ meanwhile.second)
    · exact hfirst
  | line mv =>
    exact ⟨⟨rfl, rfl⟩, s.adapter.sameSettings_play s.device.scheduler [mv]⟩

/-! ### What is known -/

/-- What a device knows agrees with what its adapter was told. `failed` says whether the last mode
set that was begun has failed. -/
structure Device.Knows (d : Device) (v : Told) (failed : Bool) : Prop where
  mode : ∀ m, d.mode = some m →
    modeWrites m <:+ otherThanPower v.writes ∧ v.width = m.width.toNat ∧ v.height = m.height.toNat
  unknown : d.mode = none ↔ failed = true
  power : d.powered = true ↔ lastPower? v.writes = some powerOnPayload

namespace Device

variable {d : Device} {t : Tap} {failed : Bool}

theorem Knows.of_sameSetup {v : Told} (h : d.Knows v failed) {d' : Device}
    (hsetup : d.SameSetup d') : d'.Knows v failed where
  mode m hm := h.mode m (hsetup.mode ▸ hm)
  unknown := hsetup.mode ▸ h.unknown
  power := hsetup.powered ▸ h.power

/-- A write to the power register that is taken makes no difference to the mode. -/
theorem Knows.switch {v : Told} (h : d.Knows v failed) {data : Payload} {on : Bool}
    (hon : on = true ↔ data = powerOnPayload) :
    { d with powered := on }.Knows (v.take (Register.power, data)) failed where
  mode m hm := by
    obtain ⟨hwrites, hsize⟩ := h.mode m hm
    rw [Told.take, otherThanPower_append_power]
    exact ⟨hwrites, hsize⟩
  unknown := h.unknown
  power := by
    rw [Told.take, lastPower?_append_power, Option.some.injEq]
    exact hon

/-- After a mode set the mode is known if all writes were taken, and unknown otherwise. -/
theorem Knows.program (h : d.Knows t.told failed) (m : DisplayMode) :
    (d.program m t).2.1.Knows (d.program m t).2.2.told (!(d.program m t).1.isOk) ∧
      (d.program m t).2.2.modeSetsBegun = t.modeSetsBegun + 1 := by
  have hset := t.told_setMode d.config.controlTimeout m
  have hpower : ∀ {taken}, taken <+: modeWrites m →
      lastPower? (t.told.writes ++ taken) = lastPower? t.told.writes := fun htaken =>
    lastPower?_append_of_ne fun w hw => power_not_mem_modeWrites m w (htaken.subset hw)
  rw [Device.program]
  generalize Register.setMode d.config.controlTimeout m t = r at *
  obtain ⟨result, t'⟩ := r
  rw [Told.ask_modeSetStart] at hset
  rcases hset with ⟨rfl, htold⟩ | ⟨e, taken, rfl, htaken, htold⟩
  · simp only at htold ⊢
    refine ⟨⟨?_, by simp [Except.isOk, Except.toBool], ?_⟩,
      (congrArg Told.begun htold).trans (Told.begun_takeAll ..)⟩
    · rintro _ ⟨rfl⟩
      rw [htold, Told.takeAll_modeWrites, otherThanPower_append_of_ne (power_not_mem_modeWrites m)]
      exact ⟨List.suffix_append .., rfl, rfl⟩
    · rw [htold, Told.writes_takeAll, hpower (List.prefix_refl _)]
      exact h.power
  · simp only at htold ⊢
    refine ⟨⟨fun _ hm => (by cases hm), by simp [Except.isOk, Except.toBool], ?_⟩,
      (congrArg Told.begun htold).trans (Told.begun_takeAll ..)⟩
    rw [htold, Told.writes_takeAll, hpower htaken]
    exact h.power

/-- A power switch changes what is known only if its write is taken. -/
theorem Knows.write_power (h : d.Knows t.told failed) {data : Payload} {on : Bool}
    (hon : on = true ↔ data = powerOnPayload) (timeout : Duration) :
    ((Register.write timeout Register.power data t).1 = .ok () ∧
        { d with powered := on }.Knows (Register.write timeout Register.power data t).2.told failed ∨
      ∃ e, (Register.write timeout Register.power data t).1 = .error e ∧
        d.Knows (Register.write timeout Register.power data t).2.told failed) ∧
      (Register.write timeout Register.power data t).2.modeSetsBegun = t.modeSetsBegun := by
  have hstart : (Register.power, data) ≠ modeSetStart := by
    simp [modeSetStart, Register.power, reset]
  have hwrite := t.told_write timeout Register.power data
  rw [Told.ask_of_ne hstart] at hwrite
  rcases hwrite with ⟨hok, htold⟩ | ⟨e, herror, htold⟩
  · exact ⟨.inl ⟨hok, htold ▸ h.switch hon⟩, congrArg Told.begun htold⟩
  · exact ⟨.inr ⟨e, herror, htold ▸ h⟩, congrArg Told.begun htold⟩

/-- A setup call that begins no mode set leaves the known mode as it is; of one that begins a mode
set, the answer says whether that failed. -/
theorem Knows.control (h : d.Knows t.told failed) (c : Control) :
    (d.control t c).2.1.Knows (d.control t c).2.2.told
      (if (d.control t c).2.2.modeSetsBegun = t.modeSetsBegun then failed
        else !(d.control t c).1.isOk) := by
  have hprogram : ∀ {d : Device} {t : Tap}, d.Knows t.told failed → ∀ m n, t.modeSetsBegun = n →
      (d.program m t).2.1.Knows (d.program m t).2.2.told
        (if (d.program m t).2.2.modeSetsBegun = n then failed
          else !(d.program m t).1.isOk) := by
    intro d t h m n hn
    obtain ⟨hknows, hbegun⟩ := h.program m
    rw [if_neg (by omega)]
    exact hknows
  cases c with
  | enable width height hertz =>
    have hon : true = true ↔ powerOnPayload = powerOnPayload := ⟨fun _ => rfl, fun _ => rfl⟩
    obtain ⟨hwrite, hbegun⟩ := h.write_power hon d.config.controlTimeout
    rw [Device.control, Device.enable]
    split
    · rw [if_pos rfl]
      exact h
    next m _ =>
    rw [powerOn]
    generalize Register.write d.config.controlTimeout Register.power powerOnPayload t = r at *
    obtain ⟨result, t'⟩ := r
    rcases hwrite with ⟨rfl, hknows⟩ | ⟨e, rfl, hknows⟩
    · simp only
      by_cases hset : d.mode = some m
      · rw [if_pos hset, if_pos hbegun]
        exact hknows
      · rw [if_neg hset]
        exact hprogram hknows m _ hbegun
    · simp only
      rw [if_pos hbegun]
      exact hknows
  | setMode width height hertz =>
    rw [Device.control, Device.setMode]
    split
    · rw [if_pos rfl]
      exact h
    next m _ => exact hprogram h m _ rfl
  | disable =>
    have hoff : false = true ↔ zeroPayload = powerOnPayload := by decide
    obtain ⟨hwrite, hbegun⟩ := h.write_power hoff d.config.controlTimeout
    rw [Device.control, Device.disable, powerOff]
    generalize Register.write d.config.controlTimeout Register.power zeroPayload t = r at *
    obtain ⟨result, t'⟩ := r
    rcases hwrite with ⟨rfl, hknows⟩ | ⟨e, rfl, hknows⟩
    · simp only
      rw [if_pos hbegun]
      exact hknows
    · simp only
      rw [if_pos hbegun]
      exact hknows

end Device

/-! ### Histories of a display on its line -/

/-- A display on a tapped adapter that nothing else drives. `setFailed` says whether the last mode
set that was begun has failed. -/
structure Console where
  device : Device
  tap : Tap
  setFailed : Bool := false

namespace Console

/-- What can happen to a display on its line: calls, and between them changes of the adapter. -/
inductive Operation where
  | control (c : Device.Control)
  | connectorStatus
  | readEdid (block : UInt8)
  /-- Frames, waits, and what happens on the line meanwhile, faults included. -/
  | station (a : Station.Action)
  /-- Register answers begin to fail, or stop failing. -/
  | receiveFault (e : Option TransportError)
  | setRegister (address : UInt16) (value : UInt8)

def act (c : Console) : Operation → Console
  | .control call =>
    let (result, d, t) := c.device.control c.tap call
    { device := d
      tap := t
      setFailed := if t.modeSetsBegun = c.tap.modeSetsBegun then c.setFailed else !result.isOk }
  | .connectorStatus => { c with tap := (c.device.connectorStatus c.tap).2 }
  | .readEdid block => { c with tap := (c.device.readEdid block c.tap).2 }
  | .station a =>
    let s := Station.act ⟨c.device, c.tap.adapter⟩ a
    { c with device := s.device, tap := { c.tap with adapter := s.adapter } }
  | .receiveFault e => { c with tap := { c.tap with receiveFault := e } }
  | .setRegister address value => { c with tap := c.tap.adjust (·.setRegister address value) }

def run (c : Console) (ops : List Operation) : Console := ops.foldl act c

def Knows (c : Console) : Prop := c.device.Knows c.tap.told c.setFailed

variable {c : Console}

theorem Knows.act (h : c.Knows) (op : Operation) : (c.act op).Knows := by
  cases op with
  | control call => exact Device.Knows.control h call
  | connectorStatus =>
    rw [Knows, Console.act, Device.connectorStatus, Tap.told_connectorStatus]
    exact h
  | readEdid block =>
    rw [Knows, Console.act, Device.readEdid, Register.readEdid, Tap.told_readRun]
    exact h
  | station a =>
    obtain ⟨hsetup, hsettings⟩ := Station.sameSetup_act ⟨c.device, c.tap.adapter⟩ a
    have htold : { c.tap with
        adapter := (Station.act ⟨c.device, c.tap.adapter⟩ a).adapter }.told = c.tap.told :=
      Tap.told_eq_of_sameSettings hsettings rfl
    rw [Knows, Console.act, htold]
    exact Device.Knows.of_sameSetup h hsetup
  | receiveFault e => exact h
  | setRegister address value => exact h

theorem Knows.run (h : c.Knows) (ops : List Operation) : (c.run ops).Knows := by
  induction ops generalizing c with
  | nil => exact h
  | cons op rest ih => exact ih (h.act op)

/-- A display that has just been attached knows the mode that it was set to. -/
theorem Knows.of_attach {id socket : Nat} {config : Config} {tap tap' : Tap} {d : Device}
    (h : Device.attach id socket config tap = (.ok d, tap'))
    (hoff : lastPower? tap.adapter.writes ≠ some powerOnPayload) :
    Knows { device := d, tap := tap' } := by
  have hset := tap.told_setMode config.controlTimeout config.initialMode
  rw [Device.attach] at h
  generalize Register.setMode config.controlTimeout config.initialMode tap = r at *
  obtain ⟨result, t⟩ := r
  rw [Told.ask_modeSetStart, Told.takeAll_modeWrites] at hset
  rcases hset with ⟨rfl, htold⟩ | ⟨e, taken, rfl, -, -⟩
  · simp only at h htold
    split at h
    · cases h
    cases h
    have hne := power_not_mem_modeWrites config.initialMode
    constructor
    · rintro _ ⟨rfl⟩
      rw [htold, otherThanPower_append_of_ne hne]
      exact ⟨List.suffix_append .., rfl, rfl⟩
    · simp
    · rw [htold, lastPower?_append_of_ne hne]
      exact ⟨fun hpowered => (by cases hpowered), fun hon => absurd hon hoff⟩
  · cases h

/-- What a display knows of its adapter is so, whatever has happened since it was attached: a known
mode is the one that the last writes set, the mode is unknown exactly if the last mode set failed,
and the power is known to be on exactly if the last write to the power register switched it on. -/
theorem knows_run {id socket : Nat} {config : Config} {tap tap' : Tap} {d : Device}
    (h : Device.attach id socket config tap = (.ok d, tap'))
    (hoff : lastPower? tap.adapter.writes ≠ some powerOnPayload) (ops : List Operation) :
    let c := run { device := d, tap := tap' } ops
    (∀ m, c.device.mode = some m →
        modeWrites m <:+ otherThanPower c.tap.adapter.writes ∧
          c.tap.adapter.frame.width = m.width.toNat ∧
          c.tap.adapter.frame.height = m.height.toNat) ∧
      (c.device.mode = none ↔ c.setFailed = true) ∧
      (c.device.powered = true ↔ lastPower? c.tap.adapter.writes = some powerOnPayload) := by
  have hknows := (Knows.of_attach h hoff).run ops
  exact ⟨hknows.mode, hknows.unknown, hknows.power⟩

/-- A display with default settings, attached on a fresh line. -/
def freshlyAttached : Except Error Device × Tap := Device.attach 0 0 {} {}

/-- The commit fails while the display is switched on to another mode. -/
def failingCommit : List Operation :=
  [.station (.line (.faults { write := some (commit, .stall) })),
    .control (.enable 1024 768 60),
    .connectorStatus]

theorem knows_run_failingCommit :
    ∃ d, freshlyAttached = (.ok d, freshlyAttached.2) ∧
      (run { device := d, tap := freshlyAttached.2 } failingCommit).device.mode = none ∧
      lastPower? (run { device := d, tap := freshlyAttached.2 } failingCommit).tap.adapter.writes =
        some powerOnPayload := by
  have hattach : freshlyAttached = (.ok (freshlyAttached.1.toOption.get rfl), freshlyAttached.2) :=
    rfl
  obtain ⟨-, hmode, hpower⟩ := knows_run hattach (by decide) failingCommit
  exact ⟨_, hattach, hmode.2 (by decide +kernel), hpower.1 (by decide +kernel)⟩

end Console

end UsbDisplay
