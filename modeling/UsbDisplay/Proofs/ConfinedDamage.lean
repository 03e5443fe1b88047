import UsbDisplay.Proofs.FittingFrames
import UsbDisplay.Proofs.KnownMode

/-!
Damage that stays above a row. Bounding boxes may have rows that were never damaged, but none below
the lowest that was; so while all damage lies above a row, nothing at that row or below it is ever
painted, and nothing to the right of the whole columns either (`SingleTransfer.Confined`). Together
with what is known of the damaged points this is kept along a stream of framebuffers of one size
(`Station.Streams`).
-/

namespace UsbDisplay

namespace Rect

/-- A rectangle that has nothing in a row or below it. -/
def Above (r : Rect) (row : Nat) : Prop := r.isEmpty = false → r.y2 ≤ row

variable {r s : Rect} {row row' : Nat}

theorem above_of_isEmpty (h : r.isEmpty = true) : r.Above row := by
  intro hnonempty
  rw [h] at hnonempty
  cases hnonempty

theorem Above.mono (h : r.Above row) (hle : row ≤ row') : r.Above row' := by
  intro hnonempty
  have hrow := h hnonempty
  omega

/-- The bounding box of two rectangles above a row lies above it. -/
theorem Above.union (hr : r.Above row) (hs : s.Above row) : (r ∪ s).Above row := by
  cases hrempty : r.isEmpty with
  | true => rwa [union_of_isEmpty_left hrempty]
  | false =>
    cases hsempty : s.isEmpty with
    | true => rwa [union_of_isEmpty_right hrempty hsempty]
    | false =>
      rw [union_of_nonempty hrempty hsempty]
      exact fun _ => Int.max_le.2 ⟨hr hrempty, hs hsempty⟩

theorem Above.align (h : r.Above row) (width height : Nat) : (r.align width height).Above row := by
  intro hnonempty
  have hrow := h (isEmpty_eq_false_of_align hnonempty)
  rw [align_of_nonempty hnonempty]
  exact Int.le_trans (Int.min_le_left ..) hrow

end Rect

namespace SingleTransfer

/-- A machine that has nothing to show in a row or below it, and nothing to the right of the whole
columns either. -/
structure Confined (m : SingleTransfer) (columns row : Nat) : Prop where
  pending : m.pending.Above row
  rect : m.rect.Above row
  right : m.rect.isEmpty = false → m.rect.x2 ≤ columns
  carried : m.status = .running → ∃ (source : Framebuffer) (header : UpdateHeader),
    m.sent.getLast? = some (source.update header).packet ∧ header.rect.Nameable ∧
      header.rect = m.rect

namespace Confined

variable {m : SingleTransfer} {columns row row' : Nat}

theorem start (config : Config) (columns row : Nat) :
    ({ config := config } : SingleTransfer).Confined columns row :=
  ⟨Rect.above_of_isEmpty rfl, Rect.above_of_isEmpty rfl, fun h => (by cases h),
    fun h => (by cases h)⟩

theorem not_mem (h : m.Confined columns row) {x y : Nat} (hout : ¬ (x < columns ∧ y < row)) :
    (⟨x, y⟩ : Point) ∉ m.rect := by
  intro hmem
  have hnonempty := Rect.isEmpty_eq_false_of_mem hmem
  have hrow := h.rect hnonempty
  have hright := h.right hnonempty
  simp only [Rect.mem_iff] at hmem
  omega

theorem lost (h : m.Confined columns row) : m.lost.Above row := by
  rw [SingleTransfer.lost]
  split
  · exact h.rect
  · exact Rect.above_of_isEmpty rfl

theorem setPending (h : m.Confined columns row) (hle : row ≤ row') {r : Rect}
    (hr : r.Above row') : { m with pending := r }.Confined columns row' :=
  ⟨hr, h.rect.mono hle, h.right, h.carried⟩

theorem react (h : m.Confined columns row) (e : Scheduler.Event) :
    (m.react e).Confined columns row := by
  rw [SingleTransfer.react]
  split
  · exact ⟨h.pending, h.rect, h.right,
      fun hrunning => h.carried (Slot.Progress.eq_running_of_react hrunning)⟩
  · exact h

theorem reactAll (h : m.Confined columns row) (events : List Scheduler.Event) :
    (m.reactAll events).Confined columns row := by
  induction events generalizing m with
  | nil => exact h
  | cons e rest ih => exact ih (h.react e)

theorem handBack (h : m.Confined columns row) : m.handBack.Confined columns row := by
  rw [SingleTransfer.handBack]
  split
  · exact ⟨h.pending, h.rect, h.right, fun hrunning => (by cases hrunning)⟩
  · exact h

theorem merged (h : m.Confined columns row) (hle : row ≤ row') {damage : Rect}
    (hdamage : damage.Above row') : (m.merged damage).Above row' :=
  ((h.pending.mono hle).union hdamage).union (h.lost.mono hle)

/-- A frame whose damage lies above a row sends and keeps nothing below it. -/
theorem submit (h : m.Confined columns row) (hle : row ≤ row') {fb : Framebuffer}
    (hcolumns : fb.width - fb.width % 16 = columns) (hwidth : fb.width < 2147483648)
    (hheight : fb.height < 2147483648) {damage : Rect} (hdamage : damage.Above row')
    (now : Duration) (events : List Scheduler.Event) :
    (m.submit fb damage now events).2.Confined columns row' := by
  have hwaited := h.reactAll events
  refine submit_cases (P := fun r => r.2.Confined columns row') m fb damage now events
    ?throttled ?nothing ?dropped ?refused ?sent
  case throttled => exact fun _ => h.setPending hle ((h.pending.mono hle).union hdamage)
  case nothing => exact fun _ => h.handBack.setPending hle (Rect.above_of_isEmpty rfl)
  case dropped =>
    rintro - _ rfl -
    exact hwaited.setPending hle (hwaited.merged hle hdamage)
  case refused =>
    rintro - _ e rfl - -
    exact hwaited.handBack.setPending hle (hwaited.merged hle hdamage)
  case sent =>
    rintro - _ rect header rfl - rfl hok
    obtain ⟨hname, hrect, -⟩ := Framebuffer.headerFor_eq_ok_iff.1 hok
    rw [Framebuffer.clipRows_align hheight] at hname hrect
    refine ⟨Rect.above_of_isEmpty rfl, (hwaited.merged hle hdamage).align _ _, fun hnonempty => ?_,
      fun _ => ⟨fb, header, List.getLast?_concat, hrect ▸ hname, hrect⟩⟩
    simp only at hnonempty ⊢
    rw [Rect.align_of_nonempty hnonempty]
    refine Int.le_trans (Int.min_le_right ..) ?_
    rw [Rect.lastColumn_of_lt hwidth]
    omega

theorem waitIdle (h : m.Confined columns row) (events : PerSlot (List Scheduler.Event)) :
    (m.waitIdle events).2.Confined columns row := by
  simp only [SingleTransfer.waitIdle]
  split
  · exact h.reactAll _
  · exact (h.reactAll _).reactAll _

/-- What is painted of a running transfer leaves the rest of the picture alone. -/
theorem pixel?_of_cases (h : m.Confined columns row) (hrunning : m.status = .running)
    {packet : ByteArray} (hpacket : m.sent.getLast? = some packet) {a : Adapter}
    {r : Option (Except TransportError Nat) × Adapter}
    (hr : r = (none, a) ∨ (∃ e, r = (some (.error e), a)) ∨
      r = (some (a.paint packet).1, (a.paint packet).2)) {x y : Nat}
    (hout : ¬ (x < columns ∧ y < row)) : r.2.frame.pixel? x y = a.frame.pixel? x y := by
  rcases hr with rfl | ⟨e, rfl⟩ | rfl
  · rfl
  · rfl
  obtain ⟨source, header, hsource, hname, hrect⟩ := h.carried hrunning
  obtain rfl : packet = (source.update header).packet :=
    Option.some.inj (hpacket.symm.trans hsource)
  have hcolumns := UpdateHeader.OnColumns.of_nameable hname
  have hpos : 0 < header.width.toNat := by
    have := hname.columns
    simp only [UpdateHeader.rect] at this
    omega
  rw [a.paint_update source hcolumns]
  exact Frame.pixel?_paint_update_of_not_mem hcolumns hpos (hrect ▸ h.not_mem hout)

variable {d : Device} {a : Adapter} {x y : Nat}

theorem pixel?_move (h : m.Confined columns row) (hm : d.Models m) (mv : LineMove)
    (hout : ¬ (x < columns ∧ y < row)) :
    (a.move d.scheduler mv).2.frame.pixel? x y = a.frame.pixel? x y := by
  cases mv with
  | call i =>
    rw [Adapter.move]
    split
    · rfl
    next t ht =>
      obtain ⟨-, hrunning, hpacket⟩ := hm.of_running ht
      exact h.pixel?_of_cases hrunning hpacket (a.bulkOut_cases t.packet _) hout
  | resume i =>
    rw [Adapter.move]
    split
    · rfl
    next t ht =>
      obtain ⟨-, hrunning, hpacket⟩ := hm.of_running ht
      exact h.pixel?_of_cases hrunning hpacket (a.resume_cases ⟨⟨0, i⟩, t.packet, false, _⟩) hout
  | deadline i => rfl
  | faults f => rfl

/-- Whatever happens on the line, the rest of the picture stays as it is. -/
theorem pixel?_play (h : m.Confined columns row) (hm : d.Models m) (moves : List LineMove)
    (hout : ¬ (x < columns ∧ y < row)) :
    (a.play d.scheduler moves).2.frame.pixel? x y = a.frame.pixel? x y := by
  induction moves generalizing a m d with
  | nil => rfl
  | cons mv rest ih =>
    have hmove := h.pixel?_move (a := a) hm mv hout
    rw [Adapter.play]
    generalize a.move d.scheduler mv = r at *
    obtain ⟨_ | e, a'⟩ := r
    · exact (ih h hm).trans hmove
    · exact (ih (d := { d with scheduler := d.scheduler.react e }) (h.react e)
        (hm.react e)).trans hmove

end Confined

end SingleTransfer

/-- A framebuffer that follows another one in a stream. What has changed is inside the damage, and
with that all rows above `row'` are damaged, not only those above `row`. -/
structure Framebuffer.Follows (next fb : Framebuffer) (config : Config) (damage : Rect)
    (row row' : Nat) : Prop where
  width_eq : fb.width = next.width
  height_eq : fb.height = next.height
  width_le : next.width ≤ min config.maxWidth 4095
  height_le : next.height ≤ min config.maxHeight 65535
  agrees : next.AgreesOutside fb damage
  row_le : row ≤ row'
  above : damage.Above row'
  covered : ∀ x y : Nat, x < next.width → y < row' → y < row ∨ (⟨x, y⟩ : Point) ∈ damage

/-- The same framebuffer again, without damage. -/
theorem Framebuffer.Follows.again {fb : Framebuffer} {config : Config} (row : Nat)
    (hwidth : fb.width ≤ min config.maxWidth 4095)
    (hheight : fb.height ≤ min config.maxHeight 65535) :
    fb.Follows fb config Rect.empty row row where
  width_eq := rfl
  height_eq := rfl
  width_le := hwidth
  height_le := hheight
  agrees := .refl fb _
  row_le := Nat.le_refl _
  above := Rect.above_of_isEmpty rfl
  covered _ _ _ hy := .inl hy

/-- A display on its line that is sent framebuffers of one size. `fb` is the last one, and what was
damaged so far are the rows above `row`. The picture has the size `width` by `height`, and was blank
at first. -/
structure Station.Streams (s : Station) (config : Config) (width height : Nat) (fb : Framebuffer)
    (row : Nat) : Prop where
  confined : ∃ m, s.device.Models m ∧ m.config = config ∧
    m.Confined (fb.width - fb.width % 16) row
  tracks : ∀ x y : Nat, (⟨x, y⟩ : Point) ∈ Rect.usable fb.width fb.height →
    ∃ m, s.device.Models m ∧ Tracks s.adapter m fb (y < row) x y
  size : s.adapter.frame.width = width ∧ s.adapter.frame.height = height
  blank : ∀ x y, ¬ (x < fb.width - fb.width % 16 ∧ y < row) →
    s.adapter.frame.pixel? x y = (Frame.blank width height).pixel? x y

namespace Station.Streams

variable {s : Station} {config : Config} {width height row : Nat} {fb : Framebuffer}

theorem start (hmodels : s.device.Models { config := config })
    (hblank : s.adapter.frame = .blank width height) (fb : Framebuffer) :
    s.Streams config width height fb 0 where
  confined := ⟨_, hmodels, rfl, .start ..⟩
  tracks x y _ := ⟨_, hmodels, fun h => absurd h (Nat.not_lt_zero y), fun h => (by cases h)⟩
  size := by
    rw [hblank]
    exact ⟨rfl, rfl⟩
  blank x y _ := by rw [hblank]

/-- The size of the picture, when an action leaves it. -/
theorem size_act (h : s.Streams config width height fb row) (a : Station.Action) :
    (s.act a).adapter.frame.width = width ∧ (s.act a).adapter.frame.height = height := by
  have hsame := (s.sameSetup_act a).2
  exact ⟨hsame.width.trans h.size.1, hsame.height.trans h.size.2⟩

theorem line (h : s.Streams config width height fb row) (mv : LineMove) :
    (s.act (.line mv)).Streams config width height fb row where
  confined := by
    obtain ⟨m, hmodels, hconfig, hconfined⟩ := h.confined
    exact ⟨_, hmodels.reactAll _, (m.config_reactAll _).trans hconfig, hconfined.reactAll _⟩
  tracks x y husable := by
    obtain ⟨m, hmodels, htracks⟩ := h.tracks x y husable
    exact ⟨_, hmodels.reactAll _, htracks.play hmodels [mv]⟩
  size := h.size_act (.line mv)
  blank x y hout := by
    obtain ⟨m, hmodels, -, hconfined⟩ := h.confined
    exact (hconfined.pixel?_play hmodels [mv] hout).trans (h.blank x y hout)

theorem elapse (h : s.Streams config width height fb row) (moves : List LineMove) :
    (s.elapse moves).Streams config width height fb row := by
  induction moves generalizing s with
  | nil => exact h
  | cons mv rest ih => exact ih (h.line mv)

theorem waitIdle (h : s.Streams config width height fb row) (meanwhile : PerSlot (List LineMove)) :
    (s.waitIdle meanwhile).Streams config width height fb row where
  confined := by
    obtain ⟨m, hmodels, hconfig, hconfined⟩ := h.confined
    refine ⟨_, s.device_waitIdle meanwhile ▸ (hmodels.waitIdle _).2, ?_, hconfined.waitIdle _⟩
    exact (m.config_act (.waitIdle (σ := Adapter) _)).trans hconfig
  tracks x y husable := by
    obtain ⟨m, hmodels, htracks⟩ := h.tracks x y husable
    exact htracks.waitIdle hmodels meanwhile
  size := h.size_act (.waitIdle meanwhile)
  blank x y hout := by
    obtain ⟨m, hmodels, -, hconfined⟩ := h.confined
    have hfirst := hconfined.pixel?_play (a := s.adapter) hmodels meanwhile.first hout
    have hsecond := fun (a : Adapter) events => (hconfined.reactAll events).pixel?_play (a := a)
      (hmodels.wait .first events) meanwhile.second hout
    refine Eq.trans ?_ (h.blank x y hout)
    simp only [Station.waitIdle]
    generalize s.adapter.play s.device.scheduler meanwhile.first = played at *
    split
    · exact (hsecond played.2 played.1).trans hfirst
    · exact hfirst

theorem submit (h : s.Streams config width height fb row) {next : Framebuffer} {damage : Rect}
    {row' : Nat} (hnext : next.Follows fb config damage row row') (now : Duration)
    (meanwhile : List LineMove) :
    (∃ status, s.submitAnswer next damage now meanwhile = .ok status) ∧
      (s.submit next damage now meanwhile).Streams config width height next row' := by
  obtain ⟨hwidth, hheight, hfitsWidth, hfitsHeight, hagrees, hle, habove, hcovered⟩ := hnext
  obtain ⟨m, hmodels, hconfig, hconfined⟩ := h.confined
  rw [hwidth] at hconfined
  refine ⟨?_, ?_, fun x y husable => ?_, h.size_act (.submit next damage now meanwhile),
    fun x y hout => ?_⟩
  · refine hmodels.accepts ?_ ?_ damage now _
    · rwa [hmodels.config, hconfig]
    · rwa [hmodels.config, hconfig]
  · refine ⟨_, (hmodels.submitFrame next damage now _).2, ?_,
      hconfined.submit hle rfl (by omega) (by omega) habove now _⟩
    exact (m.config_act (.submit (σ := Adapter) next damage now _)).trans hconfig
  · have hin := (Rect.mem_usable_iff (by omega) (by omega)).1 husable
    obtain ⟨m, hmodels, htracks⟩ := h.tracks x y (hwidth ▸ hheight ▸ husable)
    obtain ⟨m', hmodels', htracks'⟩ := htracks.submit hmodels hwidth hheight (by omega) hagrees
      husable now meanwhile
    exact ⟨m', hmodels', htracks'.mono fun hy => hcovered x y (by omega) hy⟩
  · have hbefore : ¬ (x < next.width - next.width % 16 ∧ y < row) := by omega
    refine Eq.trans ?_ (h.blank x y (hwidth ▸ hbefore))
    simp only [Station.submit]
    split
    · exact hconfined.pixel?_play (hmodels.poll _) meanwhile hbefore
    · rfl

end Station.Streams

/-- The latest transfer, if there was one, has ended with success. -/
def Device.Delivered (d : Device) : Prop :=
  (d.scheduler.slot d.active.other).progress.isUndelivered = false

theorem Slot.Progress.isInFlight_of_delivered {p : Slot.Progress} (h : p.isUndelivered = false) :
    p.isInFlight = false := by
  cases p with
  | unused => rfl
  | settled => rfl
  | _ => cases h

theorem Device.Delivered.waitIdle {d : Device} (h : d.Delivered)
    (meanwhile : SlotId → Scheduler → List Scheduler.Event) :
    (d.waitIdle meanwhile).2.Delivered := by
  have hended := Slot.Progress.isInFlight_of_delivered h
  have hfirst := Scheduler.progress_wait_of_ended hended .first (meanwhile .first)
  simp only [Device.waitIdle, Scheduler.waitIdle, Delivered]
  generalize d.scheduler.wait .first (meanwhile .first) = waited at *
  obtain ⟨_ | _, s⟩ := waited
  · rwa [hfirst]
  · rwa [Scheduler.progress_wait_of_ended (hfirst ▸ hended), hfirst]

end UsbDisplay
