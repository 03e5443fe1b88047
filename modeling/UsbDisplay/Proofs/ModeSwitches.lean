import UsbDisplay.Proofs.FlakyLines
import UsbDisplay.Proofs.KnownMode
import UsbDisplay.Proofs.ModeSequence

/-!
Mode switches on lines on which any exchange may fail, before the adapter has taken it or after. A
mode that is not supported is refused before anything goes over the line. Otherwise the power is
switched on, and the six writes of a mode set go out unless the mode is known to be set. After a
switch that succeeds the picture of the adapter has the size that was asked for, whatever failed in
all the calls before it (`FlakyConsole.switches_exactly`).
-/

namespace UsbDisplay

open Register

/-! ### What a switch does -/

namespace Register

/-- The packet that switches a display on, byte by byte. -/
def powerOnPacket : List UInt8 := [0xA6, 0x07, 0, 1, 2, 0, 0, 0, 0, 0]

theorem powerOnPacket_eq : writePacket power powerOnPayload = powerOnPacket := rfl

end Register

/-- The first known mode of a resolution and rate. -/
def DisplayMode.IsFirst (m : DisplayMode) (width height hertz : Nat) : Prop :=
  ∃ earlier later, DisplayMode.table = earlier ++ m :: later ∧ m.Is width height hertz ∧
    ∀ m' ∈ earlier, ¬ m'.Is width height hertz

theorem DisplayMode.find?_eq_some_iff {m : DisplayMode} {width height hertz : Nat} :
    DisplayMode.find? width height hertz = some m ↔ m.IsFirst width height hertz := by
  rw [DisplayMode.find?, List.find?_eq_some_iff_append]
  constructor
  · rintro ⟨his, earlier, later, htable, hearlier⟩
    exact ⟨earlier, later, htable, his, fun m' hm' => by simpa using hearlier m' hm'⟩
  · rintro ⟨earlier, later, htable, his, hearlier⟩
    exact ⟨his, earlier, later, htable, fun m' hm' => by simpa using hearlier m' hm'⟩

namespace Device

/-- Some known mode has this resolution and rate, and the display can take it. -/
def Supports (d : Device) (width height hertz : Nat) : Prop :=
  (∃ m ∈ DisplayMode.table, m.Is width height hertz) ∧
    width ≤ d.config.maxWidth ∧ height ≤ d.config.maxHeight

theorem chooseMode_cases (d : Device) (width height hertz : Nat) :
    ¬ d.Supports width height hertz ∧
        d.chooseMode width height hertz = .error (.unsupportedMode width height hertz) ∨
      d.Supports width height hertz ∧
        ∃ m, m.IsFirst width height hertz ∧ d.chooseMode width height hertz = .ok m := by
  rw [chooseMode]
  cases hfind : DisplayMode.find? width height hertz with
  | none =>
    refine .inl ⟨?_, rfl⟩
    rintro ⟨⟨m, hm, his⟩, -⟩
    exact List.find?_eq_none.1 hfind m hm his
  | some m =>
    have hfirst := DisplayMode.find?_eq_some_iff.1 hfind
    have hmem := List.mem_of_find?_eq_some hfind
    have ⟨_, _, _, his, _⟩ := hfirst
    simp only [Config.fits, Bool.and_eq_true, decide_eq_true_eq]
    split
    next hfits => exact .inr ⟨⟨⟨m, hmem, his⟩, hfits⟩, m, hfirst, rfl⟩
    next hfits => exact .inl ⟨fun h => hfits h.2, rfl⟩

/-- What comes of switching a display on and to a mode: `switched` is the result of the write that
switches it on, `more` are the exchanges after it. -/
inductive Enabling (d : Device) (m : DisplayMode) :
    Except TransportError Nat → List ControlExchange → Except Error Unit → Device → Prop
  | unpowered (cause : TransportError) :
    Enabling d m (.error cause) [] (.error (.transport cause)) d
  | known (n : Nat) (is_set : d.mode = some m) :
    Enabling d m (.ok n) [] (.ok ()) { d with powered := true }
  | programmed (n : Nat) (more : List ControlExchange) (result : Except Error Unit)
    (is_not_set : d.mode ≠ some m)
    (written : WrittenUpTo (modePackets m) (more.filterMap ControlExchange.write?) result) :
    Enabling d m (.ok n) more result
      { d with powered := true, mode := result.toOption.map fun _ => m }

variable {σ : Type} [ControlTransport σ] {d : Device} {m : DisplayMode} {width height hertz : Nat}

theorem program_recorded (d : Device) (m : DisplayMode) (r : RecordedLine σ) :
    ∃ made result, d.program m r =
        (result, { d with mode := result.toOption.map fun _ => m },
          ⟨(Register.setMode d.config.controlTimeout m r.line).2, r.exchanges ++ made⟩) ∧
      WrittenUpTo (modePackets m) (made.filterMap ControlExchange.write?) result ∧
      result = (Register.setMode d.config.controlTimeout m r.line).1 := by
  obtain ⟨made, first, rest, hset, hwrites, -, hwritten⟩ :=
    setMode_recorded d.config.controlTimeout m r
  rw [← hwrites] at hwritten
  rw [program, hset]
  generalize Register.setMode d.config.controlTimeout m r.line = set at *
  obtain ⟨_ | _, s⟩ := set
  · exact ⟨made, _, rfl, hwritten, rfl⟩
  · exact ⟨made, _, rfl, hwritten, rfl⟩

/-- A switch to a supported mode begins with the write that switches the display on. -/
theorem enable_recorded (hchoose : d.chooseMode width height hertz = .ok m) (r : RecordedLine σ) :
    ∃ switched more,
      (d.enable width height hertz r).2.2.exchanges = r.exchanges ++
        writing d.config.controlTimeout (powerOnPacket, switched) :: more ∧
      Enabling d m switched more (d.enable width height hertz r).1
        (d.enable width height hertz r).2.1 := by
  obtain ⟨result, hwrite, hwritten⟩ :=
    write_recorded d.config.controlTimeout Register.power powerOnPayload r
  simp only [enable, hchoose, powerOn, hwrite]
  generalize Register.write d.config.controlTimeout Register.power powerOnPayload r.line = written at *
  obtain ⟨answer, s⟩ := written
  cases hwritten with
  | failed _ _ cause => exact ⟨_, [], rfl, .unpowered cause⟩
  | next _ n later =>
    cases later
    simp only [RecordedLine.note]
    split
    next hset => exact ⟨_, [], rfl, .known n hset⟩
    next hset =>
      obtain ⟨made, result, hprogram, hmade, -⟩ := program_recorded { d with powered := true } m
        ⟨s, r.exchanges ++ [writing d.config.controlTimeout (powerOnPacket, .ok n)]⟩
      rw [powerOnPacket_eq, hprogram]
      exact ⟨_, made, by simp, .programmed n made result hset hmade⟩

namespace Enabling

variable {switched : Except TransportError Nat} {more : List ControlExchange}
  {result : Except Error Unit} {after : Device}

theorem of_unpowered (h : Enabling d m switched more result after) {cause : TransportError}
    (failed : switched = .error cause) :
    result = .error (.transport cause) ∧ after = d ∧ more = [] := by
  cases h with
  | unpowered => exact ⟨by cases failed; rfl, rfl, rfl⟩
  | known => cases failed
  | programmed => cases failed

/-- With the power on, a mode set is begun exactly if the mode is not known to be set. -/
theorem of_powered (h : Enabling d m switched more result after) {n : Nat}
    (taken : switched = .ok n) :
    after.powered = true ∧ (more = [] ↔ d.mode = some m) ∧
      (d.mode ≠ some m →
        WrittenUpTo (modePackets m) (more.filterMap ControlExchange.write?) result) ∧
      (result ≠ .ok () → after.mode = none) := by
  cases h with
  | unpowered => cases taken
  | known _ is_set =>
    exact ⟨rfl, ⟨fun _ => is_set, fun _ => rfl⟩, fun h => absurd is_set h, fun h => absurd rfl h⟩
  | programmed _ _ _ is_not_set written =>
    have hbegun : more ≠ [] := by
      rintro rfl
      exact written.ne_nil (List.cons_ne_nil _ _) rfl
    refine ⟨rfl, ⟨fun h => absurd h hbegun, fun h => absurd h is_not_set⟩, fun _ => written, ?_⟩
    cases result with
    | error e => exact fun _ => rfl
    | ok _ => exact fun h => absurd rfl h

theorem eq_ok_iff (h : Enabling d m switched more result after) :
    result = .ok () ↔ (∃ n, switched = .ok n) ∧ (d.mode = some m ∨
      (more.filterMap ControlExchange.write?).map Prod.fst = modePackets m ∧
        ∀ w ∈ more.filterMap ControlExchange.write?, ∃ n, w.2 = .ok n) := by
  cases h with
  | unpowered cause => simp
  | known n is_set => simp [is_set]
  | programmed n _ _ is_not_set written =>
    rw [written.eq_ok_iff]
    simp [is_not_set]

theorem ne_unsupportedMode (h : Enabling d m switched more result after) :
    result ≠ .error (.unsupportedMode width height hertz) := by
  cases h with
  | unpowered => exact nofun
  | known => exact nofun
  | programmed _ _ _ _ written => exact written.ne_unsupportedMode _ _ _

theorem of_ok (h : Enabling d m switched more result after) (ok : result = .ok ()) :
    after.powered = true ∧ after.mode = some m := by
  cases h with
  | unpowered => cases ok
  | known _ is_set => exact ⟨rfl, is_set⟩
  | programmed =>
    cases ok
    exact ⟨rfl, rfl⟩

end Enabling

end Device

/-! ### Histories of a display on a flaky line -/

/-- A display on a recorded line that nothing else drives. -/
structure FlakyConsole where
  device : Device
  line : RecordedLine FlakyLine

namespace FlakyConsole

/-- What can happen to a display on its line: calls, and between them changes of the adapter. -/
inductive Operation where
  | control (c : Device.Control)
  | connectorStatus
  | readEdid (block : UInt8)
  /-- Frames, waits, and what happens on the line meanwhile, faults of the adapter included. -/
  | station (a : Station.Action)
  | setRegister (address : UInt16) (value : UInt8)
  /-- These mishaps lie ahead. -/
  | mishaps (l : List (Option Mishap))

def adapter (c : FlakyConsole) : Adapter := c.line.line.adapter

def setAdapter (c : FlakyConsole) (a : Adapter) : FlakyConsole :=
  { c with line := { c.line with line := { c.line.line with adapter := a } } }

/-- A setup call, with what it gives. -/
def perform (c : FlakyConsole) (call : Device.Control) : Except Error Unit × FlakyConsole :=
  let after := c.device.control c.line call
  (after.1, ⟨after.2.1, after.2.2⟩)

def act (c : FlakyConsole) : Operation → FlakyConsole
  | .control call => (c.perform call).2
  | .connectorStatus => { c with line := (c.device.connectorStatus c.line).2 }
  | .readEdid block => { c with line := (c.device.readEdid block c.line).2 }
  | .station a =>
    let s := Station.act ⟨c.device, c.adapter⟩ a
    { c with device := s.device }.setAdapter s.adapter
  | .setRegister address value => c.setAdapter (c.adapter.setRegister address value)
  | .mishaps l => { c with line := { c.line with line := { c.line.line with mishaps := l } } }

def run (c : FlakyConsole) (ops : List Operation) : FlakyConsole := ops.foldl act c

/-- The picture of the adapter has the size of the mode that is known. -/
def Shows (c : FlakyConsole) : Prop :=
  ∀ m, c.device.mode = some m →
    c.adapter.frame.width = m.width.toNat ∧ c.adapter.frame.height = m.height.toNat

variable {c c' : FlakyConsole}

theorem Shows.of_same (h : c.Shows) (hmode : c'.device.mode = c.device.mode)
    (hwidth : c'.adapter.frame.width = c.adapter.frame.width)
    (hheight : c'.adapter.frame.height = c.adapter.frame.height) : c'.Shows := by
  intro m hm
  rw [hwidth, hheight]
  exact h m (hmode ▸ hm)

theorem Shows.of_told (h : c.Shows) (hmode : c'.device.mode = c.device.mode)
    (htold : c'.line.line.told = c.line.line.told) : c'.Shows :=
  h.of_same hmode (congrArg Told.width htold) (congrArg Told.height htold)

/-- After a mode set no mode is known, or the one whose writes have all been taken. -/
theorem shows_program (d : Device) (m : DisplayMode) (r : RecordedLine FlakyLine) :
    Shows ⟨(d.program m r).2.1, (d.program m r).2.2⟩ := by
  obtain ⟨made, result, hprogram, -, hresult⟩ := d.program_recorded m r
  rw [hprogram]
  cases result with
  | error e => exact fun _ hm => (by cases hm)
  | ok _ =>
    rintro _ ⟨rfl⟩
    have htold := FlakyLine.told_setMode hresult.symm
    rw [Told.takeAll_modeWrites] at htold
    exact ⟨congrArg Told.width htold, congrArg Told.height htold⟩

theorem Shows.write_power (h : c.Shows) (timeout : Duration) (data : Payload) :
    ∀ d : Device, d.mode = c.device.mode →
      Shows ⟨d, (Register.write timeout Register.power data c.line).2⟩ := by
  intro d hmode
  have hline := c.line.line_perform timeout (.write Register.power data)
  have hsize := c.line.line.size_write_power timeout data
  rw [Access.perform, Access.perform] at hline
  rw [← hline] at hsize
  exact h.of_same hmode hsize.1 hsize.2

theorem Shows.perform (h : c.Shows) (call : Device.Control) : (c.perform call).2.Shows := by
  simp only [FlakyConsole.perform]
  generalize hafter : c.device.control c.line call = after
  cases call with
  | enable width height hertz =>
    have hpower := h.write_power c.device.config.controlTimeout powerOnPayload
    rw [Device.control, Device.enable] at hafter
    split at hafter
    · exact hafter ▸ h
    next m _ =>
    rw [powerOn] at hafter
    generalize Register.write c.device.config.controlTimeout Register.power powerOnPayload c.line =
      written at *
    obtain ⟨_ | _, r⟩ := written
    · exact hafter ▸ hpower _ rfl
    · simp only at hafter
      split at hafter
      · exact hafter ▸ hpower _ rfl
      · exact hafter ▸ shows_program { c.device with powered := true } m r
  | setMode width height hertz =>
    rw [Device.control, Device.setMode] at hafter
    split at hafter
    · exact hafter ▸ h
    next m _ => exact hafter ▸ shows_program c.device m c.line
  | disable =>
    have hpower := h.write_power c.device.config.controlTimeout zeroPayload
    rw [Device.control, Device.disable, powerOff] at hafter
    generalize Register.write c.device.config.controlTimeout Register.power zeroPayload c.line =
      written at *
    obtain ⟨_ | _, r⟩ := written
    · exact hafter ▸ hpower _ rfl
    · exact hafter ▸ hpower _ rfl

theorem Shows.act (h : c.Shows) (op : Operation) : (c.act op).Shows := by
  cases op with
  | control call => exact h.perform call
  | connectorStatus =>
    have hreads : ∀ a ∈ RegisterCall.connectorStatus.accesses, a.isRead := by
      simp [RegisterCall.accesses, Access.isRead]
    exact h.of_told rfl (FlakyLine.told_line_perform c.device.config.controlTimeout hreads c.line)
  | readEdid block =>
    have hreads : ∀ a ∈ (RegisterCall.readEdid block).accesses, a.isRead :=
      fun a ha => Access.isRead_of_mem_reads ha
    exact h.of_told rfl (FlakyLine.told_line_perform c.device.config.controlTimeout hreads c.line)
  | station a =>
    obtain ⟨hsetup, hsettings⟩ := Station.sameSetup_act ⟨c.device, c.adapter⟩ a
    exact h.of_same hsetup.mode hsettings.width hsettings.height
  | setRegister address value => exact h
  | mishaps l => exact h

theorem Shows.run (h : c.Shows) (ops : List Operation) : (c.run ops).Shows := by
  induction ops generalizing c with
  | nil => exact h
  | cons op rest ih => exact ih (h.act op)

/-- A display that has just been attached shows its initial mode. -/
theorem Shows.of_attach {id socket : Nat} {config : Config} {line line' : RecordedLine FlakyLine}
    {d : Device} (h : Device.attach id socket config line = (.ok d, line')) : Shows ⟨d, line'⟩ := by
  obtain ⟨made, first, rest, hset, -⟩ :=
    setMode_recorded config.controlTimeout config.initialMode line
  have htold := @FlakyLine.told_setMode config.controlTimeout config.initialMode line.line
  rw [Device.attach, hset] at h
  generalize Register.setMode config.controlTimeout config.initialMode line.line = set at *
  obtain ⟨_ | _, f⟩ := set
  · cases h
  · simp only [RecordedLine.note] at h
    split at h
    · cases h
    cases h
    have hsize := htold rfl
    rw [Told.takeAll_modeWrites] at hsize
    rintro _ ⟨rfl⟩
    exact ⟨congrArg Told.width hsize, congrArg Told.height hsize⟩

theorem Shows.size_eq (h : c.Shows) {m : DisplayMode} (hm : c.device.mode = some m)
    {width height hertz : Nat} (hfirst : m.IsFirst width height hertz) :
    c.adapter.frame.width = width ∧ c.adapter.frame.height = height := by
  obtain ⟨_, _, -, his, -⟩ := hfirst
  simp only [DisplayMode.Is, Bool.and_eq_true, beq_iff_eq] at his
  obtain ⟨hwidth, hheight⟩ := h m hm
  exact ⟨hwidth.trans his.1.1, hheight.trans his.1.2⟩

/-- A refused mode is refused by both kinds of switch, and nothing changes. -/
theorem perform_of_refused {width height hertz : Nat} {e : Error}
    (hchoose : c.device.chooseMode width height hertz = .error e) :
    c.perform (.enable width height hertz) = (.error e, c) ∧
      c.perform (.setMode width height hertz) = (.error e, c) := by
  simp only [FlakyConsole.perform, Device.control, Device.enable, Device.setMode, hchoose, and_self]

/-- A mode set on its own leaves nothing but its exchanges and the mode. -/
theorem perform_setMode_recorded {width height hertz : Nat} {m : DisplayMode}
    (hchoose : c.device.chooseMode width height hertz = .ok m) :
    ∃ made result, (c.perform (.setMode width height hertz)).1 = result ∧
      (c.perform (.setMode width height hertz)).2.device =
        { c.device with mode := result.toOption.map fun _ => m } ∧
      (c.perform (.setMode width height hertz)).2.line.exchanges = c.line.exchanges ++ made ∧
      WrittenUpTo (modePackets m) (made.filterMap ControlExchange.write?) result := by
  obtain ⟨made, result, hprogram, hwritten, -⟩ := c.device.program_recorded m c.line
  simp only [FlakyConsole.perform, Device.control, Device.setMode, hchoose, hprogram]
  exact ⟨made, result, rfl, rfl, rfl, hwritten⟩

/-- A switch to a mode that is not supported is refused, nothing goes over the line and nothing
changes; no other switch is refused. A switch to a supported mode takes the first known mode of the
resolution and rate. Switching the display on begins with the power. If that fails nothing else goes
out and nothing changes. If it succeeds the writes of a mode set follow, up to the first that fails,
unless the mode is known to be set. A mode set on its own always begins, and leaves the power. After
a success the display knows the mode and the picture of the adapter has the size that was asked for;
after a mode set that failed no mode is known. All of this is so in any state that the display can
get into, and with any mishaps on the line. -/
theorem switches_exactly {id socket : Nat} {config : Config} {line line' : RecordedLine FlakyLine}
    {d : Device} (h : Device.attach id socket config line = (.ok d, line')) (ops : List Operation)
    (width height hertz : Nat) :
    let c := run ⟨d, line'⟩ ops
    let enabled := c.perform (.enable width height hertz)
    let set := c.perform (.setMode width height hertz)
    (∀ called, called = enabled ∨ called = set →
      (called.1 = .error (.unsupportedMode width height hertz) ↔
        ¬ c.device.Supports width height hertz) ∧
      (¬ c.device.Supports width height hertz → called.2 = c)) ∧
    (c.device.Supports width height hertz → ∃ m : DisplayMode, m.IsFirst width height hertz ∧
      (∃ switched more,
        enabled.2.line.exchanges = c.line.exchanges ++
          writing c.device.config.controlTimeout (powerOnPacket, switched) :: more ∧
        (∀ cause, switched = .error cause → enabled.1 = .error (.transport cause) ∧
          enabled.2.device = c.device ∧ more = []) ∧
        (∀ n, switched = .ok n → enabled.2.device.powered = true ∧
          (more = [] ↔ c.device.mode = some m) ∧
          (c.device.mode ≠ some m →
            WrittenUpTo (modePackets m) (more.filterMap ControlExchange.write?) enabled.1) ∧
          (enabled.1 ≠ .ok () → enabled.2.device.mode = none)) ∧
        (enabled.1 = .ok () ↔ (∃ n, switched = .ok n) ∧ (c.device.mode = some m ∨
          (more.filterMap ControlExchange.write?).map Prod.fst = modePackets m ∧
            ∀ w ∈ more.filterMap ControlExchange.write?, ∃ n, w.2 = .ok n))) ∧
      (enabled.1 = .ok () → enabled.2.device.powered = true ∧ enabled.2.device.mode = some m ∧
        enabled.2.adapter.frame.width = width ∧ enabled.2.adapter.frame.height = height) ∧
      (∃ made,
        set.2.line.exchanges = c.line.exchanges ++ made ∧
        WrittenUpTo (modePackets m) (made.filterMap ControlExchange.write?) set.1 ∧
        (set.1 = .ok () ↔ (made.filterMap ControlExchange.write?).map Prod.fst = modePackets m ∧
          ∀ w ∈ made.filterMap ControlExchange.write?, ∃ n, w.2 = .ok n)) ∧
      set.2.device.powered = c.device.powered ∧
      (set.1 = .ok () → set.2.device.mode = some m ∧
        set.2.adapter.frame.width = width ∧ set.2.adapter.frame.height = height) ∧
      (set.1 ≠ .ok () → set.2.device.mode = none)) := by
  intro c enabled set
  have hshows : c.Shows := (Shows.of_attach h).run ops
  have henable : enabled.2.Shows := hshows.perform _
  have hset : set.2.Shows := hshows.perform _
  rcases c.device.chooseMode_cases width height hertz with
    ⟨hunsupported, hchoose⟩ | ⟨hsupported, m, hfirst, hchoose⟩
  · refine ⟨?_, fun h => absurd h hunsupported⟩
    obtain ⟨henabled, hset⟩ : enabled = _ ∧ set = _ := perform_of_refused hchoose
    rintro called (rfl | rfl)
    · rw [henabled]
      exact ⟨⟨fun _ => hunsupported, fun _ => rfl⟩, fun _ => rfl⟩
    · rw [hset]
      exact ⟨⟨fun _ => hunsupported, fun _ => rfl⟩, fun _ => rfl⟩
  obtain ⟨switched, more, hexchanges, henabling⟩ := Device.enable_recorded hchoose c.line
  obtain ⟨made, result, hresult, hdevice, hmade, hwritten⟩ := perform_setMode_recorded hchoose
  rw [← hresult] at hdevice hwritten
  constructor
  · have hrefused {called : Except Error Unit × FlakyConsole}
        (hne : called.1 ≠ .error (.unsupportedMode width height hertz)) :
        (called.1 = .error (.unsupportedMode width height hertz) ↔
          ¬ c.device.Supports width height hertz) ∧
        (¬ c.device.Supports width height hertz → called.2 = c) :=
      ⟨⟨fun h => absurd h hne, fun h => absurd hsupported h⟩, fun h => absurd hsupported h⟩
    rintro called (rfl | rfl)
    · exact hrefused henabling.ne_unsupportedMode
    · exact hrefused (hwritten.ne_unsupportedMode _ _ _)
  · intro _
    have hmode : set.2.device.mode = set.1.toOption.map fun _ => m := congrArg Device.mode hdevice
    refine ⟨m, hfirst, ⟨switched, more, hexchanges, fun _ => henabling.of_unpowered,
      fun _ => henabling.of_powered, henabling.eq_ok_iff⟩, fun hok => ?_,
      ⟨made, hmade, hwritten, hwritten.eq_ok_iff⟩, (congrArg Device.powered hdevice).trans rfl,
      fun hok => ?_, fun hfailed => ?_⟩
    · obtain ⟨hpowered, hm⟩ := henabling.of_ok hok
      exact ⟨hpowered, hm, henable.size_eq hm hfirst⟩
    · rw [hok] at hmode
      exact ⟨hmode, hset.size_eq hmode hfirst⟩
    · rw [hmode]
      cases hend : set.1 with
      | error e => rfl
      | ok _ => exact absurd hend hfailed

/-- A display with default settings, attached on a fresh line. -/
def attached : Except Error Device × RecordedLine FlakyLine := Device.attach 0 0 {} { line := {} }

/-- The first write of a mode set gets lost. -/
def lostReset : List Operation := [
  .mishaps [none, some { cause := .stall, arrives := false }],
  .control (.enable 1024 768 60)]

theorem switches_exactly_lostReset :
    ∃ d, attached = (.ok d, attached.2) ∧
      (run ⟨d, attached.2⟩ lostReset).device.mode = none ∧
      (run ⟨d, attached.2⟩ lostReset).device.powered = true ∧
      ((run ⟨d, attached.2⟩ lostReset).perform (.enable 2048 1152 60)).1 = .ok () ∧
      ((run ⟨d, attached.2⟩ lostReset).perform (.enable 2048 1152 60)).2.adapter.frame.width =
        2048 := by
  have hattach : attached = (.ok (attached.1.toOption.get rfl), attached.2) := rfl
  obtain ⟨-, hsupported⟩ := switches_exactly hattach lostReset 2048 1152 60
  have hsupports : (run ⟨attached.1.toOption.get rfl, attached.2⟩ lostReset).device.Supports
      2048 1152 60 := by
    exact ⟨⟨⟨2048, 1152, 60, 0x8900, .uyvy⟩, by decide, by decide⟩, by decide +kernel⟩
  obtain ⟨m, -, -, hok, -⟩ := hsupported hsupports
  have henabled :
      ((run ⟨attached.1.toOption.get rfl, attached.2⟩ lostReset).perform
        (.enable 2048 1152 60)).1 = .ok () := rfl
  exact ⟨_, hattach, rfl, rfl, henabled, (hok henabled).2.2.1⟩

end FlakyConsole

end UsbDisplay
