import UsbDisplay.Proofs.DeviceRuns
import UsbDisplay.Proofs.Painting
import UsbDisplay.Station

/-!
What a simulated adapter shows of the last framebuffer. While frames of one size follow each other,
and each differs from the one before it only inside its damage, a damaged point is shown, or still
pending, or on its way (`Tracks`), whatever happens on the line; so once nothing is pending and the
last transfer is delivered, it is shown (`Station.picture_shown`).
-/

namespace UsbDisplay

open Device (Action Answer)

namespace Station

/-- What comes before the first frame: setup calls, and changes of the adapter. -/
inductive Setup where
  | control (c : Device.Control)
  | faults (f : Adapter.Faults)

def setup (s : Station) : Setup → Station
  | .control c =>
    let (_, d, a) := s.device.control s.adapter c
    ⟨d, a⟩
  | .faults f => { s with adapter := { s.adapter with faults := f } }

/-- The framebuffer and the damage that are passed with an action. -/
def Action.frame? : Action → Option (Framebuffer × Rect)
  | .submit fb damage .. => some (fb, damage)
  | _ => none

/-- The framebuffers that are passed in a run, each with its damage. -/
def frames (actions : List Action) : List (Framebuffer × Rect) := actions.filterMap Action.frame?

end Station

namespace Framebuffer

/-- Two framebuffers have the same colours outside a rectangle. -/
def AgreesOutside (fb prev : Framebuffer) (damage : Rect) : Prop :=
  ∀ x y, x < fb.width → y < fb.height → (⟨x, y⟩ : Point) ∉ damage →
    (fb.pixel x y).rgb = (prev.pixel x y).rgb

/-- Each framebuffer differs from the one before it only inside its own damage. -/
def Steady : List (Framebuffer × Rect) → Prop
  | last :: next :: rest => next.1.AgreesOutside last.1 next.2 ∧ Steady (next :: rest)
  | _ => True

theorem AgreesOutside.refl (fb : Framebuffer) (damage : Rect) : fb.AgreesOutside fb damage :=
  fun _ _ _ _ _ => rfl

/-- A usable pixel comes to the same in both, or alignment adds it to the damage. -/
theorem AgreesOutside.shownPixel_eq_or_mem {fb prev : Framebuffer} {damage : Rect}
    (h : fb.AgreesOutside prev damage) {x y : Nat}
    (husable : (⟨x, y⟩ : Point) ∈ Rect.usable fb.width fb.height) :
    prev.shownPixel x y = fb.shownPixel x y ∨ ⟨x, y⟩ ∈ damage.align fb.width fb.height := by
  by_cases hmem : ⟨x, y⟩ ∈ damage.align fb.width fb.height
  · exact .inr hmem
  -- the pair of a pixel lies in one column, which alignment takes or leaves as a whole
  have hsame : ∀ q : Nat, q / 16 = x / 16 → (fb.pixel q y).rgb = (prev.pixel q y).rgb := by
    intro q hcolumn
    have hq : (⟨q, y⟩ : Point) ∈ Rect.usable fb.width fb.height :=
      Rect.mem_usable_of_column husable (by simp only; omega) rfl
    have hbounds := hq
    simp only [Rect.mem_iff, Rect.usable, Rect.lastColumn, Rect.lastRow, Rect.alignDown,
      Rect.columnWidth] at hbounds
    refine h q y (by omega) (by omega) fun hdamage => hmem ?_
    exact Rect.mem_align_of_column (Rect.mem_align hdamage hq) (by simp only; omega) rfl
  refine .inl ?_
  rw [shownPixel, shownPixel, hsame x rfl, hsame (x - x % 2) (by omega),
    hsame (x - x % 2 + 1) (by omega)]

end Framebuffer

/-- The picture of the adapter has the pixel that this place of a framebuffer comes to. -/
def Adapter.Shows (a : Adapter) (fb : Framebuffer) (x y : Nat) : Prop :=
  x < a.frame.width → y < a.frame.height → a.frame.pixel? x y = some (fb.shownPixel x y)

/-- Where a damaged point of the last framebuffer can be, and what the running transfer does to it.
Its packet may be of an earlier framebuffer, but then what has changed since is pending. -/
structure Tracks (a : Adapter) (m : SingleTransfer) (fb : Framebuffer) (damaged : Prop)
    (x y : Nat) : Prop where
  covered : damaged → ⟨x, y⟩ ∈ m.pending.align fb.width fb.height ∨ a.Shows fb x y ∨
    (m.status.isUndelivered = true ∧ ⟨x, y⟩ ∈ m.rect)
  carried : m.status = .running → ∃ (source : Framebuffer) (header : UpdateHeader),
    m.sent.getLast? = some (source.update header).packet ∧ header.rect.Nameable ∧
      header.rect = m.rect ∧ (⟨x, y⟩ ∈ m.rect → source.shownPixel x y = fb.shownPixel x y ∨
        ⟨x, y⟩ ∈ m.pending.align fb.width fb.height)

namespace Tracks

variable {a : Adapter} {m : SingleTransfer} {d : Device} {fb : Framebuffer} {damaged : Prop}
  {x y : Nat}

theorem mono (h : Tracks a m fb damaged x y) {damaged' : Prop} (himp : damaged' → damaged) :
    Tracks a m fb damaged' x y :=
  ⟨fun hdamaged => h.covered (himp hdamaged), h.carried⟩

theorem failed (h : Tracks a m fb damaged x y) :
    Tracks a { m with status := .failed } fb damaged x y := by
  refine ⟨fun hdamaged => ?_, fun hrunning => by cases hrunning⟩
  rcases h.covered hdamaged with hpending | hshown | ⟨-, hrect⟩
  · exact .inl hpending
  · exact .inr (.inl hshown)
  · exact .inr (.inr ⟨rfl, hrect⟩)

/-- The packet of the running transfer is taken. Inside its rectangle the picture is then as the
last framebuffer has it, unless that is pending again; outside it stays. -/
theorem painted (h : Tracks a m fb damaged x y) (hrunning : m.status = .running)
    {packet : ByteArray} (hpacket : m.sent.getLast? = some packet) :
    (a.paint packet).1 = .ok packet.size ∧
      Tracks (a.paint packet).2 { m with status := .settled } fb damaged x y := by
  obtain ⟨source, header, hsource, hname, hrect, hpixel⟩ := h.carried hrunning
  obtain rfl : packet = (source.update header).packet :=
    Option.some.inj (hpacket.symm.trans hsource)
  have hcolumns := UpdateHeader.OnColumns.of_nameable hname
  have hpos : 0 < header.width.toNat := by
    have := hname.columns
    simp only [UpdateHeader.rect] at this
    omega
  have hpaint := a.paint_update source hcolumns
  generalize a.paint (source.update header).packet = painted at *
  obtain ⟨result, after⟩ := painted
  obtain ⟨rfl, rfl⟩ := Prod.mk.inj hpaint
  refine ⟨rfl, fun hdamaged => ?_, fun hsettled => by cases hsettled⟩
  -- the packet may be of an older framebuffer than `fb`
  by_cases hmem : ⟨x, y⟩ ∈ m.rect
  · rcases hpixel hmem with hsame | hpending
    · refine .inr (.inl fun hx hy => ?_)
      simp only [Frame.width_paint, Frame.height_paint] at hx hy
      rw [Frame.pixel?_paint_update_of_mem hcolumns hx hy (hrect ▸ hmem), hsame]
    · exact .inl hpending
  · rcases h.covered hdamaged with hpending | hshown | ⟨-, hmem'⟩
    · exact .inl hpending
    · refine .inr (.inl fun hx hy => ?_)
      simp only [Frame.width_paint, Frame.height_paint] at hx hy
      rw [Frame.pixel?_paint_update_of_not_mem hcolumns hpos (hrect ▸ hmem), hshown hx hy]
    · exact absurd hmem' hmem

/-- A call that returns delivers its packet or fails. -/
theorem returning (h : Tracks a m fb damaged x y) (hrunning : m.status = .running)
    {packet : ByteArray} (hpacket : m.sent.getLast? = some packet)
    {r : Option (Except TransportError Nat) × Adapter}
    (hr : r = (none, a) ∨ (∃ e, r = (some (.error e), a)) ∨
      r = (some (a.paint packet).1, (a.paint packet).2)) :
    Tracks (Adapter.returning m.nextSlot.other r).2
      (m.reactAll (Adapter.returning m.nextSlot.other r).1.toList) fb damaged x y := by
  have hreact : ∀ result, m.reactAll [(m.nextSlot.other, .returned result)] =
      { m with status := Slot.Progress.running.react (.returned result) } := by
    intro result
    rw [SingleTransfer.reactAll, List.foldl_cons, SingleTransfer.react, if_pos rfl, hrunning]
    rfl
  rcases hr with rfl | ⟨e, rfl⟩ | rfl
  · exact h
  · show Tracks a (m.reactAll [(m.nextSlot.other, .returned (.error e))]) fb damaged x y
    rw [hreact]
    exact h.failed
  · obtain ⟨hok, hpainted⟩ := h.painted hrunning hpacket
    rw [hok]
    show Tracks (a.paint packet).2
      (m.reactAll [(m.nextSlot.other, .returned (.ok packet.size))]) fb damaged x y
    rw [hreact]
    exact hpainted

theorem move (h : Tracks a m fb damaged x y) (hm : d.Models m) (mv : LineMove) :
    Tracks (a.move d.scheduler mv).2 (m.reactAll (a.move d.scheduler mv).1.toList)
      fb damaged x y := by
  cases mv with
  | call i =>
    rw [Adapter.move]
    split
    · exact h
    next t ht =>
      obtain ⟨rfl, hrunning, hpacket⟩ := hm.of_running ht
      exact h.returning hrunning hpacket (a.bulkOut_cases t.packet _)
  | resume i =>
    rw [Adapter.move]
    split
    · exact h
    next t ht =>
      obtain ⟨rfl, hrunning, hpacket⟩ := hm.of_running ht
      exact h.returning hrunning hpacket
        (a.resume_cases ⟨⟨0, m.nextSlot.other⟩, t.packet, false, _⟩)
  | deadline i =>
    have hreact : m.reactAll [(i, .deadline)] = m := by
      rw [SingleTransfer.reactAll, List.foldl_cons, SingleTransfer.react]
      split
      · cases m with | mk c p l r status sent => cases status <;> rfl
      · rfl
    show Tracks a (m.reactAll [(i, .deadline)]) fb damaged x y
    rw [hreact]
    exact h
  | faults f => exact ⟨h.covered, h.carried⟩

theorem play (h : Tracks a m fb damaged x y) (hm : d.Models m) (moves : List LineMove) :
    Tracks (a.play d.scheduler moves).2 (m.reactAll (a.play d.scheduler moves).1)
      fb damaged x y := by
  induction moves generalizing a m d with
  | nil => exact h
  | cons mv rest ih =>
    have hmove := h.move hm mv
    rw [Adapter.play]
    generalize a.move d.scheduler mv = r at *
    obtain ⟨_ | e, a'⟩ := r
    · exact ih hmove hm
    · exact ih (m := m.react e) (d := { d with scheduler := d.scheduler.react e }) hmove
        (hm.react e)

/-- A new framebuffer and its damage. -/
theorem renew {prev : Framebuffer} (h : Tracks a m prev damaged x y) {damage : Rect}
    (hwidth : prev.width = fb.width) (hheight : prev.height = fb.height)
    (hagree : fb.AgreesOutside prev damage)
    (husable : (⟨x, y⟩ : Point) ∈ Rect.usable fb.width fb.height) :
    Tracks a { m with pending := m.pending ∪ damage } fb (damaged ∨ ⟨x, y⟩ ∈ damage) x y := by
  obtain ⟨hcovered, hcarried⟩ := h
  rw [hwidth, hheight] at hcovered hcarried
  have hchange : prev.shownPixel x y = fb.shownPixel x y ∨
      ⟨x, y⟩ ∈ (m.pending ∪ damage).align fb.width fb.height :=
    (hagree.shownPixel_eq_or_mem husable).imp_right (Rect.mem_align_union_right _)
  constructor
  · rintro (hdamaged | hdamage)
    · rcases hcovered hdamaged with hpending | hshown | hrect
      · exact .inl (Rect.mem_align_union_left _ hpending)
      · rcases hchange with hsame | hnew
        · exact .inr (.inl fun hx hy => hsame ▸ hshown hx hy)
        · exact .inl hnew
      · exact .inr (.inr hrect)
    · exact .inl (Rect.mem_align (Rect.mem_union_right _ hdamage) husable)
  · intro hrunning
    obtain ⟨source, header, hsource, hname, hrect, hpixel⟩ := hcarried hrunning
    refine ⟨source, header, hsource, hname, hrect, fun hmem => ?_⟩
    rcases hpixel hmem with hsame | hpending
    · exact hchange.imp_left hsame.trans
    · exact .inr (Rect.mem_align_union_left _ hpending)

theorem grow (h : Tracks a m fb damaged x y) (r : Rect) :
    Tracks a { m with pending := m.pending ∪ r } fb damaged x y := by
  constructor
  · exact fun hdamaged => (h.covered hdamaged).imp_left (Rect.mem_align_union_left r)
  · intro hrunning
    obtain ⟨source, header, hsource, hname, hrect, hpixel⟩ := h.carried hrunning
    exact ⟨source, header, hsource, hname, hrect,
      fun hmem => (hpixel hmem).imp_right (Rect.mem_align_union_left r)⟩

/-- Damage that a transfer without success had is in what is merged. -/
theorem merged (h : Tracks a m fb damaged x y) (hflight : m.status.isInFlight = false)
    (husable : (⟨x, y⟩ : Point) ∈ Rect.usable fb.width fb.height) (hdamaged : damaged) :
    ⟨x, y⟩ ∈ (m.pending ∪ m.lost).align fb.width fb.height ∨ a.Shows fb x y := by
  rcases h.covered hdamaged with hpending | hshown | ⟨hundelivered, hrect⟩
  · exact .inl (Rect.mem_align_union_left _ hpending)
  · exact .inr hshown
  · refine .inl (Rect.mem_align (Rect.mem_union_right _ ?_) husable)
    rwa [SingleTransfer.lost, if_pos (Slot.Progress.eq_failed hundelivered hflight)]

theorem refused (h : Tracks a m fb damaged x y) (hflight : m.status.isInFlight = false)
    (husable : (⟨x, y⟩ : Point) ∈ Rect.usable fb.width fb.height) :
    Tracks a { m.handBack with pending := m.pending ∪ m.lost } fb damaged x y := by
  constructor
  · exact fun hdamaged => (h.merged hflight husable hdamaged).imp_right .inl
  · exact fun hrunning => absurd hrunning (SingleTransfer.status_handBack_ne_running hflight)

theorem nothing (h : Tracks a m fb damaged x y)
    (husable : (⟨x, y⟩ : Point) ∈ Rect.usable fb.width fb.height)
    (hempty : ((m.pending ∪ m.lost).align fb.width fb.height).isEmpty = true) :
    Tracks a { m.handBack with pending := Rect.empty } fb damaged x y := by
  have hnone : ⟨x, y⟩ ∉ (m.pending ∪ m.lost).align fb.width fb.height :=
    Rect.not_mem_of_isEmpty hempty _
  have hpending : ⟨x, y⟩ ∉ m.pending.align fb.width fb.height :=
    fun hmem => hnone (Rect.mem_align_union_left _ hmem)
  cases hflight : m.status.isInFlight with
  | false =>
    constructor
    · exact fun hdamaged => .inr (.inl ((h.merged hflight husable hdamaged).resolve_left hnone))
    · exact fun hrunning => absurd hrunning (SingleTransfer.status_handBack_ne_running hflight)
  | true =>
    rw [SingleTransfer.handBack_of_ne_failed (SingleTransfer.ne_failed_of_inFlight hflight)]
    constructor
    · exact fun hdamaged => .inr ((h.covered hdamaged).resolve_left hpending)
    · intro hrunning
      obtain ⟨source, header, hsource, hname, hrect, hpixel⟩ := h.carried hrunning
      exact ⟨source, header, hsource, hname, hrect,
        fun hmem => .inl ((hpixel hmem).resolve_right hpending)⟩

theorem sent (h : Tracks a m fb damaged x y) (hflight : m.status.isInFlight = false)
    (husable : (⟨x, y⟩ : Point) ∈ Rect.usable fb.width fb.height)
    (hheight : fb.height < 2147483648) {header : UpdateHeader} {capacity lineCapacity : Nat}
    (hok : fb.headerFor ((m.pending ∪ m.lost).align fb.width fb.height) capacity lineCapacity =
      .ok header) (now : Duration) :
    Tracks a { m with
      pending := Rect.empty
      lastSend := some now
      rect := (m.pending ∪ m.lost).align fb.width fb.height
      status := .running
      sent := m.sent ++ [(fb.update header).packet] } fb damaged x y := by
  obtain ⟨hname, hrect, -⟩ := Framebuffer.headerFor_eq_ok_iff.1 hok
  rw [Framebuffer.clipRows_align hheight] at hname hrect
  constructor
  · intro hdamaged
    rcases h.merged hflight husable hdamaged with hmem | hshown
    · exact .inr (.inr ⟨rfl, hmem⟩)
    · exact .inr (.inl hshown)
  · exact fun _ => ⟨fb, header, List.getLast?_concat, hrect ▸ hname, hrect, fun _ => .inl rfl⟩

/-- A submit of a framebuffer that differs from the last one only inside its damage. -/
theorem submit {s : Station} (h : Tracks s.adapter m fb damaged x y) (hm : s.device.Models m)
    {next : Framebuffer} {damage : Rect} (hwidth : fb.width = next.width)
    (hheight : fb.height = next.height) (hlimit : next.height < 2147483648)
    (hagree : next.AgreesOutside fb damage)
    (husable : (⟨x, y⟩ : Point) ∈ Rect.usable next.width next.height) (now : Duration)
    (meanwhile : List LineMove) :
    ∃ m', (s.submit next damage now meanwhile).device.Models m' ∧
      Tracks (s.submit next damage now meanwhile).adapter m' next
        (damaged ∨ ⟨x, y⟩ ∈ damage) x y := by
  have hplay := h.play (hm.poll s.device.active.other) meanwhile
  simp only [Station.submit] at hplay ⊢
  generalize s.adapter.play (s.device.scheduler.poll s.device.active.other).2 meanwhile =
    played at *
  obtain ⟨events, adapter⟩ := played
  simp only at hplay ⊢
  obtain ⟨hanswer, hmodels⟩ := hm.submitFrame next damage now events
  refine ⟨_, hmodels, ?_⟩
  rw [hanswer]
  refine SingleTransfer.submit_cases
    (P := fun r => Tracks (if Station.waited r.1 then adapter else s.adapter) r.2 next
      (damaged ∨ ⟨x, y⟩ ∈ damage) x y) m next damage now events
    ?throttled ?nothing ?dropped ?refused ?sent
  case throttled =>
    exact fun _ => h.renew hwidth hheight hagree husable
  case nothing =>
    intro hempty
    have hnothing := (h.renew hwidth hheight hagree husable).nothing husable hempty
    rwa [SingleTransfer.handBack_pending] at hnothing
  case dropped =>
    rintro - _ rfl -
    exact (hplay.renew hwidth hheight hagree husable).grow (m.reactAll events).lost
  case refused =>
    rintro - _ e rfl hflight -
    have hrefused := (hplay.renew hwidth hheight hagree husable).refused hflight husable
    rwa [SingleTransfer.handBack_pending] at hrefused
  case sent =>
    rintro - _ rect header rfl hflight rfl hok
    have hsent := (hplay.renew hwidth hheight hagree husable).sent hflight husable hlimit hok now
    simp only [SingleTransfer.config_reactAll, SingleTransfer.sent_reactAll] at hsent
    exact hsent

theorem waitIdle {s : Station} (h : Tracks s.adapter m fb damaged x y) (hm : s.device.Models m)
    (meanwhile : PerSlot (List LineMove)) :
    ∃ m', (s.waitIdle meanwhile).device.Models m' ∧
      Tracks (s.waitIdle meanwhile).adapter m' fb damaged x y := by
  have hfirst := h.play hm meanwhile.first
  simp only [Station.waitIdle]
  generalize s.adapter.play s.device.scheduler meanwhile.first = played at *
  obtain ⟨first, adapter⟩ := played
  simp only at hfirst ⊢
  have hwait := hm.wait .first first
  have hbusy := hm.wait_fst .first first
  generalize hwaited : (s.device.scheduler.wait .first fun _ => first) = waited at *
  obtain ⟨idle, scheduler⟩ := waited
  simp only at hwait hbusy ⊢
  -- the wait for the second slot is begun only once the first one is idle
  cases idle with
  | false =>
    have hstays : (m.reactAll first).isBusy .first = true := by
      rw [← Bool.not_eq_false', hbusy]
    have hmodels := (hm.waitIdle ⟨first, []⟩).2
    simp only [SingleTransfer.waitIdle, hstays, if_true] at hmodels
    exact ⟨m.reactAll first, hmodels, hfirst⟩
  | true =>
    have hstops : (m.reactAll first).isBusy .first = false := by
      rw [← Bool.not_eq_true', hbusy]
    have hsecond := hfirst.play hwait meanwhile.second
    simp only [if_true] at hsecond ⊢
    generalize adapter.play scheduler meanwhile.second = played at *
    obtain ⟨second, adapter'⟩ := played
    have hmodels := (hm.waitIdle ⟨first, second⟩).2
    simp only [SingleTransfer.waitIdle, hstops, Bool.false_eq_true, if_false] at hmodels
    exact ⟨(m.reactAll first).reactAll second, hmodels, hsecond⟩

/-- An action whose framebuffer, if it has one, differs from the last one only inside its damage. -/
theorem act {s : Station} {last : Framebuffer × Rect} (h : Tracks s.adapter m last.1 damaged x y)
    (hm : s.device.Models m) (hlimit : last.1.height < 2147483648)
    (husable : (⟨x, y⟩ : Point) ∈ Rect.usable last.1.width last.1.height) (action : Station.Action)
    (hsize : ∀ f ∈ action.frame?, f.1.width = last.1.width ∧ f.1.height = last.1.height)
    (hsteady : ∀ f ∈ action.frame?, f.1.AgreesOutside last.1 f.2) :
    ∃ m', (s.act action).device.Models m' ∧
      Tracks (s.act action).adapter m' (action.frame?.getD last).1
        (damaged ∨ ∃ f ∈ action.frame?, ⟨x, y⟩ ∈ f.2) x y := by
  have hsame : ∀ m' a', action.frame? = none → Tracks a' m' last.1 damaged x y →
      Tracks a' m' (action.frame?.getD last).1
        (damaged ∨ ∃ f ∈ action.frame?, ⟨x, y⟩ ∈ f.2) x y := by
    intro m' a' hnone htracks
    rw [hnone]
    refine htracks.mono fun hdamaged => hdamaged.resolve_right ?_
    rintro ⟨_, ⟨⟩, -⟩
  cases action with
  | submit next damage now meanwhile =>
    obtain ⟨hwidth, hheight⟩ := hsize (next, damage) rfl
    simp only at hwidth hheight
    rw [← hheight] at hlimit
    rw [← hwidth, ← hheight] at husable
    obtain ⟨m', hmodels, htracks⟩ := h.submit hm hwidth.symm hheight.symm hlimit
      (hsteady (next, damage) rfl) husable now meanwhile
    refine ⟨m', hmodels, htracks.mono ?_⟩
    rintro (hdamaged | ⟨_, ⟨⟩, hdamage⟩)
    · exact .inl hdamaged
    · exact .inr hdamage
  | waitIdle meanwhile =>
    obtain ⟨m', hmodels, htracks⟩ := h.waitIdle hm meanwhile
    exact ⟨m', hmodels, hsame _ _ rfl htracks⟩
  | line mv =>
    exact ⟨_, hm.reactAll _, hsame _ _ rfl (h.play hm [mv])⟩

theorem run {s : Station} {last : Framebuffer × Rect} (h : Tracks s.adapter m last.1 damaged x y)
    (hm : s.device.Models m) (actions : List Station.Action) {width height : Nat}
    (hlimit : height < 2147483648) (husable : (⟨x, y⟩ : Point) ∈ Rect.usable width height)
    (hsize : ∀ f ∈ last :: Station.frames actions, f.1.width = width ∧ f.1.height = height)
    (hsteady : Framebuffer.Steady (last :: Station.frames actions)) :
    ∃ m', (s.run actions).device.Models m' ∧
      Tracks (s.run actions).adapter m' ((Station.frames actions).getLastD last).1
        (damaged ∨ ∃ f ∈ Station.frames actions, ⟨x, y⟩ ∈ f.2) x y := by
  induction actions generalizing s m last damaged with
  | nil =>
    refine ⟨m, hm, h.mono fun hdamaged => hdamaged.resolve_right ?_⟩
    rintro ⟨_, ⟨⟩, -⟩
  | cons action rest ih =>
    obtain ⟨hwidth, hheight⟩ := hsize last (List.mem_cons_self ..)
    have hact := h.act hm (hheight ▸ hlimit) (hwidth ▸ hheight ▸ husable) action
    cases hframe : action.frame? with
    | none =>
      have hframes : Station.frames (action :: rest) = Station.frames rest :=
        List.filterMap_cons_none hframe
      rw [hframes] at hsize hsteady ⊢
      rw [hframe] at hact
      obtain ⟨m', hmodels, htracks⟩ := hact (by rintro _ ⟨⟩) (by rintro _ ⟨⟩)
      exact ih (htracks.mono Or.inl) hmodels hsize hsteady
    | some next =>
      have hframes : Station.frames (action :: rest) = next :: Station.frames rest :=
        List.filterMap_cons_some hframe
      rw [hframes] at hsize hsteady ⊢
      rw [hframe] at hact
      obtain ⟨hagree, hsteady⟩ := hsteady
      have hnext := hsize next (by simp)
      obtain ⟨m', hmodels, htracks⟩ := hact
        (by rintro _ ⟨⟩; exact ⟨hnext.1.trans hwidth.symm, hnext.2.trans hheight.symm⟩)
        (by rintro _ ⟨⟩; exact hagree)
      obtain ⟨m'', hmodels', htracks'⟩ := ih htracks hmodels
        (fun f hf => hsize f (List.mem_cons_of_mem _ hf)) hsteady
      refine ⟨m'', hmodels', ?_⟩
      rw [List.getLastD_cons]
      refine htracks'.mono ?_
      rintro (hdamaged | ⟨f, hf, hmem⟩)
      · exact .inl (.inl hdamaged)
      · rcases List.mem_cons.1 hf with rfl | hf
        · exact .inl (.inr ⟨f, rfl, hmem⟩)
        · exact .inr ⟨f, hf, hmem⟩

end Tracks

namespace Station

/-- Setup does not touch what the machine models. -/
theorem models_setups {s : Station} {m : SingleTransfer} (h : s.device.Models m)
    (setups : List Setup) : (setups.foldl setup s).device.Models m := by
  induction setups generalizing s with
  | nil => exact h
  | cons step rest ih =>
    refine ih ?_
    cases step with
    | control c => exact h.control s.adapter c
    | faults f => exact h

/-- Once nothing is pending and the last transfer is delivered, the adapter shows every damaged
point as the last framebuffer has it. -/
theorem picture_shown {id socket : Nat} {config : Config} {line adapter : Adapter} {d : Device}
    (hattach : Device.attach id socket config line = (.ok d, adapter)) (setups : List Setup)
    (actions : List Action) {s : Station}
    (hrun : s = (setups.foldl setup ⟨d, adapter⟩).run actions) {width height : Nat}
    (hwidth : width < 2147483648) (hheight : height < 2147483648)
    (hsize : ∀ f ∈ frames actions, f.1.width = width ∧ f.1.height = height)
    (hsteady : Framebuffer.Steady (frames actions)) {fb : Framebuffer} {damage : Rect}
    (hlast : (frames actions).getLast? = some (fb, damage))
    (hpending : s.device.pending.isEmpty = true)
    (hdelivered : (s.device.scheduler.slot s.device.active.other).outcome?.any
      Outcome.isSuccess = true)
    {x y : Nat} (hx : x < s.adapter.frame.width) (hcolumn : x < width - width % 16)
    (hy : y < s.adapter.frame.height) (hrow : y < height)
    (hdamaged : ∃ f ∈ frames actions, (⟨x, y⟩ : Point) ∈ f.2) :
    s.adapter.frame.pixel? x y = some (fb.shownPixel x y) := by
  subst hrun
  have husable : (⟨x, y⟩ : Point) ∈ Rect.usable width height :=
    (Rect.mem_usable_iff hwidth hheight).2 ⟨hcolumn, hrow⟩
  cases hframes : frames actions with
  | nil =>
    rw [hframes] at hlast
    cases hlast
  | cons first rest =>
    have hmodels := models_setups (s := ⟨d, adapter⟩) (Device.Models.of_attach hattach) setups
    -- before the first submit its own framebuffer can stand for the one before it
    have htracks : Tracks (setups.foldl setup ⟨d, adapter⟩).adapter { config := config } first.1
        False x y := ⟨False.elim, fun h => by cases h⟩
    have hsize' : ∀ f ∈ first :: frames actions, f.1.width = width ∧ f.1.height = height := by
      intro f hf
      rcases List.mem_cons.1 hf with rfl | hf
      · exact hsize f (hframes ▸ List.mem_cons_self ..)
      · exact hsize f hf
    have hsteady' : Framebuffer.Steady (first :: frames actions) := by
      rw [hframes] at hsteady ⊢
      exact ⟨Framebuffer.AgreesOutside.refl _ _, hsteady⟩
    obtain ⟨m, hmodels, htracks⟩ := htracks.run hmodels actions hheight husable hsize' hsteady'
    rw [List.getLastD_eq_getLast?, hlast] at htracks
    rw [hmodels.pending] at hpending
    rcases htracks.covered (.inr hdamaged) with hmem | hshown | ⟨hundelivered, -⟩
    · rw [Rect.align_of_isEmpty hpending] at hmem
      exact absurd hmem (Rect.not_mem_of_isEmpty Rect.isEmpty_empty _)
    · exact hshown hx hy
    · have hsettled := Slot.progress_eq_settled_iff.2 hdelivered
      rcases hmodels.progress with hp | ⟨hp, -⟩
      · rw [← hp, hsettled] at hundelivered
        cases hundelivered
      · rw [hsettled] at hp
        cases hp

/-- One white column of one row. -/
def whiteColumn : Framebuffer :=
  { Framebuffer.black 16 1 with data := ⟨Array.replicate 64 255⟩, extent_le_size := by decide }

/-- A black frame is lost to a fault, and a white one is sent after it and delivered. -/
def blackThenWhite : List Action :=
  [.submit (.black 16 1) ⟨3, 0, 5, 1⟩ .zero [], .line (.faults { bulk := some .stall }),
    .line (.call .first), .line (.faults {}),
    .submit whiteColumn ⟨0, 0, 16, 1⟩ (.ofSeconds 1) [], .line (.call .second)]

theorem picture_shown_blackThenWhite :
    ∃ d adapter, Device.attach 0 0 .oneColumn ({} : Adapter) = (.ok d, adapter) ∧
      let s := run ⟨d, adapter⟩ blackThenWhite
      s.device.pending.isEmpty = true ∧
        (s.device.scheduler.slot s.device.active.other).outcome?.any Outcome.isSuccess = true ∧
        s.adapter.frame.pixel? 3 0 = some (whiteColumn.shownPixel 3 0) := by
  obtain ⟨d, adapter, hattach, hpending, hdelivered, hx, hy⟩ : ∃ d adapter,
      Device.attach 0 0 .oneColumn ({} : Adapter) = (.ok d, adapter) ∧
        let s := run ⟨d, adapter⟩ blackThenWhite
        s.device.pending.isEmpty = true ∧
          (s.device.scheduler.slot s.device.active.other).outcome?.any Outcome.isSuccess = true ∧
          3 < s.adapter.frame.width ∧ 0 < s.adapter.frame.height := ⟨_, _, rfl, by decide +kernel⟩
  refine ⟨d, adapter, hattach, hpending, hdelivered, ?_⟩
  refine picture_shown hattach [] blackThenWhite rfl (show 16 < 2147483648 by decide)
    (show 1 < 2147483648 by decide) ?_ ⟨?_, trivial⟩ rfl hpending hdelivered hx (by decide) hy
    (by decide) ⟨_, List.mem_cons_self, by decide⟩
  · intro f hf
    rcases List.mem_cons.1 hf with rfl | hf
    · exact ⟨rfl, rfl⟩
    · rcases List.mem_singleton.1 hf with rfl
      exact ⟨rfl, rfl⟩
  · -- the damage of the white frame is all of it
    intro x y hx hy hoff
    refine absurd (Rect.mem_iff.2 ?_) hoff
    have hx : x < 16 := hx
    have hy : y < 1 := hy
    simp only
    omega

end Station

end UsbDisplay
