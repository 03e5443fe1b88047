import UsbDisplay.Proofs.FrameViews
import UsbDisplay.Proofs.RefusedFrames

/-!
Submits of views. A submit encodes at most once, and all else that it does is the same for every
source of frames of one size (`Device.Models.encodesOnce`). So a view that is whole is submitted as
its framebuffer is, a view whose encoding does not break off is submitted as what it shows, and a
view that is refused is refused before any row of it is read.
-/

namespace UsbDisplay

namespace Device

variable {d : Device} {m : SingleTransfer} {v : FrameView} {fb : Framebuffer}

/-! ### One encoding -/

/-- What a call makes of the frames of a size: it either has its result without them, or ends when a
device has encoded a rectangle of them and handed it over. -/
inductive EncodesOnce (width height : Nat) (now : Duration)
    (call : ∀ {n : Type → Type} [Monad n],
      FrameSource n → n (Except Error FrameStatus × Device)) : Prop where
  | settled (result : Except Error FrameStatus × Device)
      (h : ∀ {n : Type → Type} [Monad n] [LawfulMonad n] (source : FrameSource n),
        source.width = width → source.height = height → call source = pure result)
  | encoded (d : Device) (m : SingleTransfer) (merged rect : Rect) (b : TransferBuffer)
      (hmodels : d.Models m) (hidle : (d.scheduler.slot d.active).state = .idle b)
      (h : ∀ {n : Type → Type} [Monad n] [LawfulMonad n] (source : FrameSource n),
        source.width = width → source.height = height → call source =
          (fun result => book merged rect now (d.handOver d.active result)) <$>
            source.encode rect b)

theorem sendFrom_of_idle {n : Type → Type} [Monad n] (source : FrameSource n) (rect : Rect)
    {b : TransferBuffer} (hidle : (d.scheduler.slot d.active).state = .idle b) :
    d.sendFrom source rect d.active = (do return d.handOver d.active (← source.encode rect b)) := by
  have hbuffer : (d.scheduler.slot d.active).buffer = .ok b := by simp only [Slot.buffer, hidle]
  simp only [sendFrom, Scheduler.poll_of_idle hidle, hbuffer]

theorem EncodesOnce.congr {width height : Nat} {now : Duration}
    {call call' : ∀ {n : Type → Type} [Monad n],
      FrameSource n → n (Except Error FrameStatus × Device)}
    (h : EncodesOnce width height now call)
    (hsame : ∀ {n : Type → Type} [Monad n] (source : FrameSource n), source.width = width →
      source.height = height → call' source = call source) :
    EncodesOnce width height now call' := by
  cases h with
  | settled result hcall =>
    exact .settled result fun source hwidth hheight =>
      (hsame source hwidth hheight).trans (hcall source hwidth hheight)
  | encoded d m merged rect b hmodels hidle hcall =>
    exact .encoded d m merged rect b hmodels hidle fun source hwidth hheight =>
      (hsame source hwidth hheight).trans (hcall source hwidth hheight)

theorem Models.encodesOnce_merged (h : d.Models m) {b' : TransferBuffer}
    (hfree : (d.scheduler.slot d.active.other).state = .idle b') (width height : Nat)
    (merged : Rect) (now : Duration) :
    EncodesOnce width height now fun source => d.submitMergedFrom source merged now := by
  obtain ⟨inFlight, htake, hback⟩ := h.takeLost hfree
  obtain ⟨b, hb⟩ := hback.idle
  refine .encoded { d with inFlightDamage := inFlight } _ (merged ∪ m.lost)
    ((merged ∪ m.lost).align width height) b hback hb fun source hwidth hheight => ?_
  simp only [submitMergedFrom, htake, hwidth, hheight]
  rw [sendFrom_of_idle source _ hb]
  simp only [bind_assoc, pure_bind, map_eq_pure_bind]

theorem Models.encodesOnce_gathered (h : d.Models m) (width height : Nat) (merged : Rect)
    (now : Duration) (meanwhile : Scheduler → List Scheduler.Event) :
    EncodesOnce width height now fun source => d.submitGatheredFrom source merged now meanwhile := by
  by_cases hempty : (merged.align width height).isEmpty = true
  · refine .settled (.ok .nothingToSend, { d with pending := Rect.empty })
      fun source hwidth hheight => ?_
    rw [submitGatheredFrom, hwidth, hheight, if_pos hempty]
  have hwait : { d with scheduler := (d.scheduler.wait d.active.other meanwhile).2 }.Models _ :=
    h.wait d.active.other (meanwhile d.scheduler)
  have hfree := @Scheduler.idle_of_wait d.scheduler d.active.other meanwhile
  generalize hwaited : d.scheduler.wait d.active.other meanwhile = waited at hwait hfree
  obtain ⟨_ | _, s⟩ := waited
  · refine .settled (.ok .dropped, { d with scheduler := s, pending := merged })
      fun source hwidth hheight => ?_
    rw [submitGatheredFrom, hwidth, hheight, if_neg hempty, hwaited]
  · obtain ⟨b, hb⟩ := hfree rfl
    have hmerged := hwait.encodesOnce_merged hb width height merged now
    refine hmerged.congr fun source hwidth hheight => ?_
    rw [submitGatheredFrom, hwidth, hheight, if_neg hempty, hwaited]

theorem Models.encodesOnce (h : d.Models m) (width height : Nat) (damage : Rect) (now : Duration)
    (meanwhile : Scheduler → List Scheduler.Event) :
    EncodesOnce width height now fun source => d.submitFrom source damage now meanwhile := by
  cases hpace : d.isThrottled now with
  | true =>
    refine .settled (.ok .throttled, { d with pending := d.pending ∪ damage }) fun source _ _ => ?_
    rw [submitFrom, if_pos hpace]
  | false =>
    have hpolled := h.poll d.active.other
    have hfree := Scheduler.idle_of_poll (s := d.scheduler) (i := d.active.other)
    generalize hpoll : d.scheduler.poll d.active.other = polled at hpolled hfree
    obtain ⟨_ | _, s⟩ := polled
    · simp only [submitFrom_of_busy _ damage meanwhile hpace hpoll]
      exact hpolled.encodesOnce_gathered ..
    · obtain ⟨b, hb⟩ := hfree rfl
      obtain ⟨inFlight, htake, hback⟩ := hpolled.takeLost hb
      simp only [submitFrom_of_idle _ damage meanwhile hpace hpoll htake]
      exact hback.encodesOnce_gathered ..

/-! ### Views and framebuffers -/

/-- A submit of a view that does not break off is one of a framebuffer that the view reads. -/
theorem Models.submitView (h : d.Models m) (hv : v.Reads fb) {damage : Rect} {now : Duration}
    {meanwhile : Scheduler → List Scheduler.Event} {result : Except Error FrameStatus × Device}
    (hresult : d.submitView v damage now meanwhile = some result) :
    d.submitFrame fb damage now meanwhile = result := by
  rw [Device.submitView] at hresult
  rw [Device.submitFrame]
  cases h.encodesOnce v.width.toNat v.height.toNat damage now meanwhile with
  | settled settled hcall =>
    rw [hcall fb.source hv.width hv.height]
    rw [hcall v.source rfl rfl] at hresult
    exact Option.some.inj hresult
  | encoded d' m' merged rect b hmodels hidle hcall =>
    rw [hcall v.source rfl rfl, Option.map_eq_map, Option.map_eq_some_iff] at hresult
    obtain ⟨encoded, hencoded, rfl⟩ := hresult
    rw [hcall fb.source hv.width hv.height]
    exact congrArg (fun e => book merged rect now (d'.handOver d'.active e)) (hv.encode hencoded)

/-- A framebuffer that is refused is refused for its size alone. -/
theorem Models.submitView_of_error (h : d.Models m) (hv : v.Reads fb) {damage : Rect}
    {now : Duration} {meanwhile : Scheduler → List Scheduler.Event} {e : Error}
    (he : (d.submitFrame fb damage now meanwhile).1 = .error e) :
    d.submitView v damage now meanwhile = some (d.submitFrame fb damage now meanwhile) := by
  rw [Device.submitFrame] at he
  rw [Device.submitView, Device.submitFrame]
  cases h.encodesOnce v.width.toNat v.height.toNat damage now meanwhile with
  | settled settled hcall =>
    rw [hcall fb.source hv.width hv.height, hcall v.source rfl rfl]
    rfl
  | encoded d' m' merged rect b hmodels hidle hcall =>
    have hsend : (d'.send fb rect d'.active) = d'.handOver d'.active (fb.encode rect b) :=
      congrArg Id.run (sendFrom_of_idle fb.source rect hidle)
    have hframe : d.submitFrom fb.source damage now meanwhile =
        book merged rect now (d'.handOver d'.active (fb.encode rect b)) :=
      hcall fb.source hv.width hv.height
    rw [hframe] at he ⊢
    rw [hcall v.source rfl rfl]
    cases hencode : fb.encode rect b with
    | error e' =>
      have hview : v.source.encode rect b = some (.error e') := hv.encode_error hencode
      rw [hview]
      rfl
    | ok encoded =>
      have hheld : (d'.scheduler.slot d'.active).held? = some b := by
        simp only [Slot.held?, hidle]
      obtain ⟨header, hheader, -⟩ := Framebuffer.encode_eq_ok_iff.1 hencode
      rw [(hmodels.sound d'.active).capacity b hheld,
        (hmodels.sound d'.active).lineCapacity b hheld] at hheader
      obtain ⟨slot, hsent, -⟩ := hmodels.send_of_ok hheader
      rw [← hsend, hsent] at he
      cases he

theorem Models.submitView_of_whole (h : d.Models m) (hwhole : v.IsWhole) (damage : Rect)
    (now : Duration) (meanwhile : Scheduler → List Scheduler.Event) :
    d.submitView v damage now meanwhile =
      some (d.submitFrame (v.framebuffer hwhole) damage now meanwhile) := by
  have hv := FrameView.reads_framebuffer hwhole
  rw [Device.submitView, Device.submitFrame]
  cases h.encodesOnce v.width.toNat v.height.toNat damage now meanwhile with
  | settled result hcall =>
    rw [hcall (v.framebuffer hwhole).source hv.width hv.height, hcall v.source rfl rfl]
    rfl
  | encoded d' m' merged rect b hmodels hidle hcall =>
    rw [hcall (v.framebuffer hwhole).source hv.width hv.height, hcall v.source rfl rfl]
    have hencode : v.source.encode rect b = some ((v.framebuffer hwhole).encode rect b) :=
      FrameView.encode?_framebuffer hwhole rect b
    rw [hencode]
    rfl

theorem exists_submitView {damage : Rect} {now : Duration}
    {meanwhile : Scheduler → List Scheduler.Event} {result : Except Error FrameStatus × Device}
    {answer : Except Error FrameStatus}
    (hview : d.submitView v damage now meanwhile = some result) (hanswer : result.1 = answer) :
    ∃ after, d.submitView v damage now meanwhile = some (answer, after) :=
  ⟨result.2, hview.trans (congrArg some (Prod.ext hanswer rfl))⟩

theorem Models.after_submitFrame (h : d.Models m) (fb : Framebuffer) (damage : Rect)
    (now : Duration) (meanwhile : Scheduler → List Scheduler.Event) :
    ∃ m', (d.submitFrame fb damage now meanwhile).2.Models m' := by
  rw [submitFrame_eq_of_events]
  exact ⟨_, (h.submitFrame fb damage now _).2⟩

/-! ### Runs with views -/

section Runs

variable {σ : Type} [ControlTransport σ] {reached after : Device} {id socket : Nat}
  {config : Config} {line line' : σ}

theorem run_concat (d : Device) (actions : List (Action σ)) (a : Action σ) :
    (d.run (actions ++ [a])).2 = ((d.run actions).2.act a).2 := by
  induction actions generalizing d with
  | nil => rfl
  | cons b rest ih => exact ih _

/-- The states that a device can come to by what can happen to it, with submits of views among it
that do not break off. -/
inductive Reaches (σ : Type) [ControlTransport σ] (d : Device) : Device → Prop where
  | start : d.Reaches σ d
  | act {reached : Device} (h : d.Reaches σ reached) (a : Action σ) :
      d.Reaches σ (reached.act a).2
  | submit {reached after : Device} (h : d.Reaches σ reached) (v : FrameView) (damage : Rect)
      (now : Duration) (meanwhile : List Scheduler.Event) {answer : Except Error FrameStatus}
      (hsubmit : reached.submitView v damage now (fun _ => meanwhile) = some (answer, after)) :
      d.Reaches σ after

theorem Reaches.run (h : d.Reaches σ reached) (actions : List (Action σ)) :
    d.Reaches σ (reached.run actions).2 := by
  induction actions generalizing reached with
  | nil => exact h
  | cons a rest ih => exact ih (h.act a)

/-- Views lead to no state that framebuffers do not lead to. -/
theorem Reaches.exists_run (h : d.Reaches σ reached) (hd : d.Models m) :
    ∃ actions : List (Action σ), (d.run actions).2 = reached := by
  induction h with
  | start => exact ⟨[], rfl⟩
  | act _ a ih =>
    obtain ⟨actions, rfl⟩ := ih
    exact ⟨actions ++ [a], run_concat ..⟩
  | submit _ v damage now meanwhile hsubmit ih =>
    obtain ⟨actions, rfl⟩ := ih
    have hframe := (hd.run actions).2.submitView v.reads_shown hsubmit
    refine ⟨actions ++ [.submit v.shown damage now meanwhile], ?_⟩
    rw [run_concat]
    exact congrArg Prod.snd hframe

/-- A whole view within the limits of a device is never refused and never breaks off, in no state
that the device can come to and with any damage still pending. Whatever alignment leaves of its
damage has a header that names exactly that, and packet and line of it fit the buffers of both
slots. -/
theorem submitView_fits (h : attach id socket config line = (.ok d, line'))
    (hreached : d.Reaches σ reached) (hwhole : v.IsWhole)
    (hwidth : v.width.toNat ≤ min config.maxWidth 4095)
    (hheight : v.height.toNat ≤ min config.maxHeight 65535) (pending damage : Rect)
    (now : Duration) (meanwhile : Scheduler → List Scheduler.Event) :
    (∃ status after, { reached with pending := pending }.submitView v damage now meanwhile =
      some (.ok status, after)) ∧
    ∀ r : Rect, (r.align v.width.toNat v.height.toNat).isEmpty = false →
      ∃ header, UpdateHeader.ofRect (r.align v.width.toNat v.height.toNat) = .ok header ∧
        header.rect = r.align v.width.toNat v.height.toNat ∧
        ∀ i b, (reached.scheduler.slot i).held? = some b →
          packetLength header.width.toNat header.height.toNat ≤ b.capacity ∧
            header.width.toNat ≤ b.lineCapacity := by
  obtain ⟨actions, rfl⟩ := hreached.exists_run (Models.of_attach h)
  have hmodels := ((Models.of_attach h).run actions).2.setPending pending
  have hcolumns : (v.framebuffer hwhole).width ≤ min config.maxWidth 4095 := hwidth
  obtain ⟨⟨status, hstatus⟩, hrest⟩ := submitFrame_ok h actions hcolumns hheight pending damage now
    meanwhile
  exact ⟨⟨status, exists_submitView (hmodels.submitView_of_whole hwhole ..) hstatus⟩, hrest⟩

/-- A view is refused exactly if it does not come too soon, the frame before has come to its end,
and what is to be shown of all damage exceeds a limit. The device is none the worse for it: all
damage is pending afterwards, and the next whole view shows it as soon as it can be sent. -/
theorem submitView_refused (h : attach id socket config line = (.ok d, line'))
    (hreached : d.Reaches σ reached) (hwidth : v.width.toNat < 2147483648)
    (hheight : v.height.toNat < 2147483648) (damage : Rect) (now : Duration)
    (meanwhile : Scheduler → List Scheduler.Event) :
    let waited := reached.waited meanwhile
    let gathered := reached.gathered v.width.toNat v.height.toNat damage meanwhile
    let rect := gathered.align v.width.toNat v.height.toNat
    ((∃ e after, reached.submitView v damage now meanwhile = some (.error e, after)) ↔
      reached.isThrottled now = false ∧ waited.isBusy = false ∧
      rect.isEmpty = false ∧ rect.Exceeds config.bufferCapacity config.lineCapacity) ∧
    ∀ e after, reached.submitView v damage now meanwhile = some (.error e, after) →
      reached.Unharmed waited after damage ∧
      ∀ between : List (Action σ), (∀ a ∈ between, a.frame? = none) →
      ∀ v' : FrameView, v'.IsWhole → v'.width.toNat < 2147483648 → v'.height.toNat < 2147483648 →
      ∀ (damage' : Rect) (now' : Duration) (meanwhile' : Scheduler → List Scheduler.Event),
        let next := (after.run between).2
        let rect' := (after.pending ∪ damage').align v'.width.toNat v'.height.toNat
        next.isThrottled now' = false → rect'.isEmpty = false →
          ¬ rect'.Exceeds config.bufferCapacity config.lineCapacity →
          ∃ last, next.submitView v' damage' now' meanwhile' = some (.ok (.sent rect'), last) := by
  obtain ⟨actions, rfl⟩ := hreached.exists_run (Models.of_attach h)
  intro waited gathered rect
  have hmodels := ((Models.of_attach h).run actions).2
  have hcolumns : v.shown.width < 2147483648 := hwidth
  obtain ⟨hiff, hafter⟩ := submitFrame_refused h actions hcolumns hheight damage now meanwhile
  constructor
  · refine Iff.trans ?_ hiff
    constructor
    · rintro ⟨e, after, hview⟩
      rw [hmodels.submitView v.reads_shown hview]
      exact ⟨e, rfl⟩
    · rintro ⟨e, he⟩
      exact ⟨e, exists_submitView (hmodels.submitView_of_error v.reads_shown he) he⟩
  · intro e after hview
    have hframe := hmodels.submitView v.reads_shown hview
    obtain ⟨m', hmodels'⟩ := hmodels.after_submitFrame v.shown damage now meanwhile
    rw [hframe] at hafter hmodels'
    obtain ⟨hunharmed, hnext⟩ := hafter e rfl
    refine ⟨hunharmed, fun between hbetween v' hwhole hwidth' hheight' => ?_⟩
    intro damage' now' meanwhile' next rect' hpace hrect hlimits
    have hsent := hnext between hbetween (v'.framebuffer hwhole) hwidth' hheight' damage' now'
      meanwhile' hpace hrect hlimits
    exact exists_submitView ((hmodels'.run between).2.submitView_of_whole hwhole ..) hsent

end Runs

end Device

/-! ### Small views -/

/-- The settings of a display for framebuffers of one column and three rows. -/
def Config.threeRows : Config := { maxWidth := 16, maxHeight := 3 }

namespace FrameView

/-- Black pixels, one column in one row. -/
def oneColumn : FrameView where
  width := 16
  height := 1
  pitch := 64
  data := ⟨Array.replicate 64 0⟩
  row_le_pitch := by decide
  extent_le_size := by decide

/-- Black pixels, two columns in one row. -/
def twoColumns : FrameView where
  width := 32
  height := 1
  pitch := 128
  data := ⟨Array.replicate 128 0⟩
  row_le_pitch := by decide
  extent_le_size := by decide +kernel

end FrameView

namespace Device

/-- Damage of a much larger framebuffer is pending, and the transfer before has failed. -/
theorem submitView_fits_oneColumn :
    ∃ d line, attach 0 0 .oneColumn ({} : Adapter) = (.ok d, line) ∧
      FrameView.oneColumn.IsWhole ∧
      FrameView.oneColumn.width.toNat ≤ min Config.oneColumn.maxWidth 4095 ∧
      FrameView.oneColumn.height.toNat ≤ min Config.oneColumn.maxHeight 65535 ∧
      let actions : List (Action Adapter) :=
        [.submit (.black 16 1) ⟨0, 0, 16, 1⟩ .zero [], .event (.first, .returned (.error .stall))]
      d.Reaches Adapter (d.run actions).2 ∧
      ∃ status after, { (d.run actions).2 with pending := ⟨-7, 0, 2147483647, 9000⟩ }.submitView
        .oneColumn ⟨5, -3, 2, 8⟩ (.ofSeconds 1) (fun _ => []) = some (.ok status, after) := by
  obtain ⟨d, line, hattach⟩ := attach_oneColumn
  have hreached (actions : List (Action Adapter)) : d.Reaches Adapter (d.run actions).2 :=
    Reaches.start.run actions
  exact ⟨d, line, hattach, by decide, by decide, by decide, hreached _,
    (submitView_fits hattach (hreached _) (by decide) (by decide) (by decide) _ _ _ _).1⟩

/-- The frame before was lost, and this one is twice as wide as the buffers. The next one is not, and
shows what was lost. -/
theorem submitView_refused_twoColumns :
    ∃ d line, attach 0 0 .oneColumn ({} : Adapter) = (.ok d, line) ∧
      FrameView.twoColumns.width.toNat < 2147483648 ∧
      FrameView.twoColumns.height.toNat < 2147483648 ∧
      let actions : List (Action Adapter) :=
        [.submit (.black 16 1) ⟨0, 0, 16, 1⟩ .zero [], .event (.first, .returned (.error .stall))]
      d.Reaches Adapter (d.run actions).2 ∧
      ∃ e after, (d.run actions).2.submitView .twoColumns ⟨16, 0, 32, 1⟩ (.ofSeconds 1)
          (fun _ => []) = some (.error e, after) ∧
        after.pending = ⟨0, 0, 32, 1⟩ ∧
        ∃ last, after.submitView .oneColumn .empty (.ofSeconds 2) (fun _ => []) =
          some (.ok (.sent ⟨0, 0, 16, 1⟩), last) := by
  obtain ⟨d, line, hattach⟩ := attach_oneColumn
  refine ⟨d, line, hattach, by decide, by decide, ?_⟩
  intro actions
  have hreached : d.Reaches Adapter (d.run actions).2 := Reaches.start.run actions
  have hmodels := ((Models.of_attach hattach).run actions).2
  have hwaited := hmodels.waited []
  obtain ⟨hrefused, hafter⟩ := submitView_refused hattach hreached (v := .twoColumns) (by decide)
    (by decide) ⟨16, 0, 32, 1⟩ (.ofSeconds 1) fun _ => []
  have hgathered : (d.run actions).2.gathered 32 1 ⟨16, 0, 32, 1⟩ (fun _ => []) =
      ⟨0, 0, 32, 1⟩ := by
    rw [gathered, hmodels.mergedDamage, hwaited.mergedDamage]
    rfl
  have hexceeds : (((d.run actions).2.gathered 32 1 ⟨16, 0, 32, 1⟩ fun _ => []).align 32 1).Exceeds
      48 16 := by
    rw [hgathered]
    decide
  obtain ⟨e, after, hview⟩ := hrefused.2 ⟨hmodels.isThrottled _, hwaited.isInFlight,
    congrArg (fun r => (r.align 32 1).isEmpty) hgathered, hexceeds⟩
  obtain ⟨hunharmed, hnext⟩ := hafter e after hview
  have hpending : after.pending = ⟨0, 0, 32, 1⟩ := by
    rw [hunharmed.pending]
    exact hwaited.mergedDamage ⟨16, 0, 32, 1⟩
  have hrect : (after.pending ∪ Rect.empty).align 16 1 = ⟨0, 0, 16, 1⟩ := by
    rw [hpending]
    decide
  refine ⟨hreached, e, after, hview, hpending, ?_⟩
  have hpace : after.isThrottled (.ofSeconds 2) = false := by
    rw [Device.isThrottled, hunharmed.lastSend, hunharmed.config, hmodels.lastSend, hmodels.config]
    rfl
  have hlimits : ¬ ((after.pending ∪ Rect.empty).align 16 1).Exceeds 48 16 := by
    rw [hrect]
    decide
  obtain ⟨last, hsent⟩ := hnext [] (by simp) .oneColumn (by decide) (by decide) (by decide) .empty
    (.ofSeconds 2) (fun _ => []) hpace (congrArg Rect.isEmpty hrect) hlimits
  exact ⟨last, hsent.trans (congrArg (fun r => some (Except.ok (FrameStatus.sent r), last)) hrect)⟩

set_option maxRecDepth 1000 in
/-- A view that is not whole lies within the limits. Its second row has no bytes, and a submit that
has to show that row breaks off. -/
theorem submitView_wrapped :
    ∃ d line, attach 0 0 .threeRows ({} : Adapter) = (.ok d, line) ∧
      FrameView.wrapped.width.toNat ≤ min Config.threeRows.maxWidth 4095 ∧
      FrameView.wrapped.height.toNat ≤ min Config.threeRows.maxHeight 65535 ∧
      d.submitView .wrapped ⟨0, 1, 16, 2⟩ .zero (fun _ => []) = none :=
  ⟨_, _, rfl, by decide, by decide, rfl⟩

set_option maxRecDepth 1000 in
/-- After a refused view, one that is not whole breaks off instead of being sent. -/
theorem submitView_wrapped_after_refusal :
    ∃ d line e after, attach 0 0 .threeRows ({} : Adapter) = (.ok d, line) ∧
      d.submitView .twoColumns ⟨0, 0, 32, 1⟩ .zero (fun _ => []) = some (.error e, after) ∧
      after.isThrottled .zero = false ∧
      ((after.pending ∪ ⟨0, 1, 16, 2⟩).align 16 3).isEmpty = false ∧
      ¬ ((after.pending ∪ ⟨0, 1, 16, 2⟩).align 16 3).Exceeds Config.threeRows.bufferCapacity
        Config.threeRows.lineCapacity ∧
      after.submitView .wrapped ⟨0, 1, 16, 2⟩ .zero (fun _ => []) = none :=
  ⟨_, _, _, _, rfl, rfl, rfl, rfl, by decide, rfl⟩

end Device

end UsbDisplay
