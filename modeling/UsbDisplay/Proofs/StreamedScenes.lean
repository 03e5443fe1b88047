import UsbDisplay.Command.Stream
import UsbDisplay.Proofs.Canvases
import UsbDisplay.Proofs.LastTransfer

/-!
Streaming a scene to a display. Every framebuffer of a scene follows the one before it, so a stream
keeps what is known of the picture (`Stream.Reached`), whatever the display answers and whatever
happens on its line. When nothing is left to be sent at the end and everything is delivered, the
picture is what the last framebuffer and the number of frames say (`Stream.Reached.showsAbove`).
-/

namespace UsbDisplay.Command

/-- A scene whose framebuffers a display with these settings can take. -/
structure Scene.Fits (s : Scene) (config : Config) : Prop where
  filled : s.canvas.Filled
  width : s.canvas.width ≤ min config.maxWidth 4095
  height : s.canvas.height ≤ min config.maxHeight 65535

theorem Scene.Fits.drawn {s : Scene} {config : Config} (h : s.Fits config) (frames : Nat) :
    (s.drawn frames).Fits config :=
  ⟨filled_drawn h.filled frames, by simpa using h.width, by simpa using h.height⟩

namespace Scene

variable {s : Scene} {config : Config}

/-- A frame changes its band and nothing else. -/
theorem agreesOutside_draw (h : s.Fits config) {frame : Nat} {fb next : Framebuffer}
    (hfb : s.canvas.framebuffer = .ok fb) (hnext : (s.draw frame).canvas.framebuffer = .ok next) :
    next.AgreesOutside fb (s.damage frame) := by
  obtain ⟨-, -, hpixel⟩ := h.filled.of_framebuffer hfb
  obtain ⟨hwidth, hheight, hpixel'⟩ := (filled_draw h.filled frame).of_framebuffer hnext
  have hlimits := And.intro h.width h.height
  rw [width_draw] at hwidth hpixel'
  rw [height_draw] at hheight hpixel'
  intro x y hx hy hout
  rw [hwidth] at hx
  rw [hheight] at hy
  rw [mem_damage_iff (by omega) (by omega) hx] at hout
  rw [hpixel' x y hx hy, pixel_draw h.filled hx hy, if_neg fun hin => hout hin.2, hpixel x y hx hy]

/-- Every frame has a framebuffer, and that follows the one before it. -/
theorem Fits.follows (h : s.Fits config) (frames : Nat) {fb : Framebuffer}
    (hfb : (s.drawn frames).canvas.framebuffer = .ok fb) :
    ∃ next, (s.drawn (frames + 1)).canvas.framebuffer = .ok next ∧
      next.Follows fb config ((s.drawn frames).damage frames)
        (Band.rowsDamaged s.canvas.height frames)
        (Band.rowsDamaged s.canvas.height (frames + 1)) := by
  have hlimits := And.intro h.width h.height
  have hdrawn := h.drawn frames
  obtain ⟨next, hnext, hwidth, hheight, -⟩ := (h.drawn (frames + 1)).filled.framebuffer
  obtain ⟨hwidth', hheight', -⟩ := hdrawn.filled.of_framebuffer hfb
  rw [width_drawn] at hwidth hwidth'
  rw [height_drawn] at hheight hheight'
  refine ⟨next, hnext, hwidth'.trans hwidth.symm, hheight'.trans hheight.symm, by omega, by omega,
    agreesOutside_draw hdrawn hfb hnext, Band.rowsDamaged_le_succ .., fun _ => ?_,
    fun x y hx hy => ?_⟩
  · have hbottom := (s.drawn frames).y2_damage_le (by rw [height_drawn]; omega) frames
    rwa [height_drawn] at hbottom
  · rw [hwidth] at hx
    rw [mem_damage_iff (by rw [height_drawn]; omega) (by rw [width_drawn]; omega)
      (by rwa [width_drawn]), height_drawn]
    exact Band.lt_rowsDamaged_succ.1 hy

end Scene

namespace Stream

variable {τ : Type} {config : Config} {width height : Nat}

/-- A stream of a scene after so many frames. -/
structure Reached (config : Config) (width height : Nat) (scene : Scene) (frames : Nat)
    (s : Stream τ) : Prop where
  scene_eq : s.scene = scene.drawn frames
  station : ∃ fb, s.scene.canvas.framebuffer = .ok fb ∧
    s.session.station.Streams config width height fb (Band.rowsDamaged scene.canvas.height frames)

variable {scene : Scene} {frames : Nat} {s : Stream τ}

/-- A new display shows a blank picture. -/
theorem Reached.start (hfits : scene.Fits config) {session : Session τ}
    (hmodels : session.station.device.Models { config := config })
    (hblank : session.station.adapter.frame = .blank width height) :
    Reached config width height scene 0 ⟨session, scene⟩ := by
  obtain ⟨fb, hfb, -⟩ := hfits.filled.framebuffer
  exact ⟨rfl, fb, hfb, .start hmodels hblank fb⟩

theorem run_of_steps {streamed flushed : Stream τ} {interval : Duration} {n : Nat}
    (hstreamed : (List.range n).foldlM (Stream.frame interval) s = .ok streamed)
    (hflushed : streamed.flush interval maxFlushes = .ok flushed) :
    s.run interval n = .ok (flushed.wait (.ofSeconds 5)) := by
  simp only [Stream.run, hstreamed, hflushed, bind, Except.bind, pure, Except.pure]

theorem Reached.sleep (h : s.Reached config width height scene frames) (d : Duration) :
    (s.sleep d).Reached config width height scene frames := by
  obtain ⟨hscene, fb, hfb, hstreams⟩ := h
  exact ⟨hscene, fb, hfb, hstreams.elapse _⟩

theorem Reached.wait (h : s.Reached config width height scene frames) (limit : Duration) :
    (s.wait limit).2.Reached config width height scene frames := by
  obtain ⟨hscene, fb, hfb, hstreams⟩ := h
  exact ⟨hscene, fb, hfb, hstreams.waitIdle _⟩

/-- What a submit comes to when the display takes the framebuffer. -/
theorem submit_eq_ok {next : Framebuffer} (hnext : s.scene.canvas.framebuffer = .ok next)
    {damage : Rect} (haccepts : ∀ now meanwhile,
      ∃ status, s.session.station.submitAnswer next damage now meanwhile = .ok status) :
    ∃ session now meanwhile, s.submit damage = .ok { s with session := session } ∧
      session.station = s.session.station.submit next damage now meanwhile := by
  obtain ⟨status, hstatus⟩ := haccepts (s.session.pace.submit s.session.time s.session.station).1.now
    (s.session.pace.submit s.session.time s.session.station).1.moves
  refine ⟨(s.session.submit next damage).2, _, _, ?_, rfl⟩
  simp only [Stream.submit, hnext, Session.submit, hstatus]

/-- A frame is taken, and its band is damaged. -/
theorem Reached.frame (hfits : scene.Fits config)
    (h : s.Reached config width height scene frames) (interval : Duration) :
    ∃ s', s.frame interval frames = .ok s' ∧
      s'.Reached config width height scene (frames + 1) := by
  obtain ⟨hscene, fb, hfb, hstreams⟩ := h
  obtain ⟨session, scene'⟩ := s
  obtain rfl : scene' = scene.drawn frames := hscene
  obtain ⟨next, hnext, hfollows⟩ := hfits.follows frames hfb
  obtain ⟨sent, now, meanwhile, hok, hstation⟩ :=
    submit_eq_ok (s := ⟨session, scene.drawn (frames + 1)⟩) hnext
      fun now meanwhile => (hstreams.submit hfollows now meanwhile).1
  have hreached : Reached config width height scene (frames + 1)
      ⟨sent, scene.drawn (frames + 1)⟩ :=
    ⟨rfl, next, hnext, hstation ▸ (hstreams.submit hfollows now meanwhile).2⟩
  refine ⟨_, ?_, hreached.sleep (half interval)⟩
  have hdamage : ((scene.drawn frames).draw frames).damage frames =
    (scene.drawn frames).damage frames := Scene.damage_draw ..
  simp only [Stream.frame, hdamage]
  rw [show (scene.drawn frames).draw frames = scene.drawn (frames + 1) from rfl, hok]

theorem Reached.foldlM (hfits : scene.Fits config) (h : s.Reached config width height scene 0)
    (interval : Duration) (n : Nat) :
    ∃ s', (List.range n).foldlM (Stream.frame interval) s = .ok s' ∧
      s'.Reached config width height scene n := by
  induction n with
  | zero => exact ⟨s, rfl, h⟩
  | succ n ih =>
    obtain ⟨s', hok, hreached⟩ := ih
    obtain ⟨s'', hframe, hreached'⟩ := hreached.frame hfits interval
    refine ⟨s'', ?_, hreached'⟩
    rw [List.range_succ, List.foldlM_append, hok]
    simp only [List.foldlM_cons, List.foldlM_nil, bind, Except.bind, hframe, pure, Except.pure]

/-- A push is taken, and damages nothing. -/
theorem Reached.flush (hfits : scene.Fits config)
    (h : s.Reached config width height scene frames) (interval : Duration) (tries : Nat) :
    ∃ s', s.flush interval tries = .ok s' ∧ s'.Reached config width height scene frames := by
  induction tries generalizing s with
  | zero => exact ⟨s, rfl, h⟩
  | succ tries ih =>
    rw [Stream.flush]
    split
    next =>
      obtain ⟨hscene, fb, hfb, hstreams⟩ := (h.wait (.ofSeconds 1)).sleep interval
      have hdrawn := hfits.drawn frames
      rw [← hscene] at hdrawn
      obtain ⟨hwidth, hheight, -⟩ := hdrawn.filled.of_framebuffer hfb
      have hagain := Framebuffer.Follows.again (Band.rowsDamaged scene.canvas.height frames)
        (hwidth ▸ hdrawn.width) (hheight ▸ hdrawn.height)
      obtain ⟨session, now, meanwhile, hok, hstation⟩ := submit_eq_ok hfb
        fun now meanwhile => (hstreams.submit hagain now meanwhile).1
      rw [hok]
      exact ih ⟨hscene, fb, hfb, hstation ▸ (hstreams.submit hagain now meanwhile).2⟩
    next => exact ⟨s, rfl, h⟩

/-- A stream never fails. -/
theorem Reached.run (hfits : scene.Fits config) (h : s.Reached config width height scene 0)
    (interval : Duration) (n : Nat) :
    ∃ flushed : Stream τ, s.run interval n = .ok (flushed.wait (.ofSeconds 5)) ∧
      flushed.Reached config width height scene n := by
  obtain ⟨streamed, hstreamed, hreached⟩ := h.foldlM hfits interval n
  obtain ⟨flushed, hflushed, hreached⟩ := hreached.flush hfits interval maxFlushes
  exact ⟨flushed, run_of_steps hstreamed hflushed, hreached⟩

end Stream

end UsbDisplay.Command
