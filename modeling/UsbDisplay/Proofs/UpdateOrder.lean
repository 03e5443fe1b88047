import UsbDisplay.Proofs.Painting

/-!
The order and the split of updates do not matter. A packet brings the same pixels to a place as any
other packet of its framebuffer that covers the place, so a picture that packets of one framebuffer
were painted into is known by the places that they cover together (`Frame.Repaints.unique`): it
does not depend on their order, on overlaps, or on whether one packet or many came
(`Adapter.paintAll_packets`).
-/

namespace UsbDisplay

/-! ### Repainted pictures -/

namespace Frame

/-- A picture is known by its size and its pixels. -/
theorem eq_of_pixel? {f g : Frame} (hwidth : f.width = g.width) (hheight : f.height = g.height)
    (h : ∀ x y, f.pixel? x y = g.pixel? x y) : f = g := by
  obtain ⟨width, height, rows⟩ := f
  obtain ⟨_, _, others⟩ := g
  obtain rfl : width = _ := hwidth
  obtain rfl : height = _ := hheight
  congr 1
  ext y hy x hx
  have hpixel := h x y
  simpa only [pixel?, hx, hy, and_self, dite_true, Option.some.injEq, UInt32.toNat_inj] using hpixel

/-- A picture is another one with the pixels of a framebuffer at the covered places. -/
structure Repaints (after before : Frame) (fb : Framebuffer) (covered : Point → Prop) : Prop where
  width_eq : after.width = before.width
  height_eq : after.height = before.height
  inside : ∀ x y : Nat, x < before.width → y < before.height → covered ⟨x, y⟩ →
    after.pixel? x y = some (fb.shownPixel x y)
  outside : ∀ x y : Nat, ¬ covered ⟨x, y⟩ → after.pixel? x y = before.pixel? x y

namespace Repaints

variable {before middle after other : Frame} {fb : Framebuffer} {covered covered' : Point → Prop}

theorem refl (f : Frame) (fb : Framebuffer) : f.Repaints f fb fun _ => False :=
  ⟨rfl, rfl, fun _ _ _ _ => False.elim, fun _ _ _ => rfl⟩

theorem congr (h : after.Repaints before fb covered) (hiff : ∀ p, covered' p ↔ covered p) :
    after.Repaints before fb covered' :=
  ⟨h.width_eq, h.height_eq, fun x y hx hy hc => h.inside x y hx hy ((hiff _).1 hc),
    fun x y hc => h.outside x y fun hmem => hc ((hiff _).2 hmem)⟩

/-- What is painted later has the same pixels as what was painted before at the same place. -/
theorem trans (hlate : after.Repaints middle fb covered')
    (hearly : middle.Repaints before fb covered) :
    after.Repaints before fb fun p => covered p ∨ covered' p := by
  refine ⟨hlate.width_eq.trans hearly.width_eq, hlate.height_eq.trans hearly.height_eq,
    fun x y hx hy hc => ?_, fun x y hc => ?_⟩
  · by_cases hmem : covered' ⟨x, y⟩
    · exact hlate.inside x y (hearly.width_eq ▸ hx) (hearly.height_eq ▸ hy) hmem
    · rw [hlate.outside x y hmem]
      exact hearly.inside x y hx hy (hc.resolve_right hmem)
  · rw [not_or] at hc
    rw [hlate.outside x y hc.2, hearly.outside x y hc.1]

/-- The places that are covered determine the picture. -/
theorem unique (h : after.Repaints before fb covered) (h' : other.Repaints before fb covered) :
    after = other := by
  refine eq_of_pixel? (h.width_eq.trans h'.width_eq.symm) (h.height_eq.trans h'.height_eq.symm)
    fun x y => ?_
  by_cases hcovered : covered ⟨x, y⟩
  · by_cases hin : x < before.width ∧ y < before.height
    · rw [h.inside x y hin.1 hin.2 hcovered, h'.inside x y hin.1 hin.2 hcovered]
    · rw [pixel?, pixel?, dif_neg (by rwa [h.width_eq, h.height_eq]),
        dif_neg (by rwa [h'.width_eq, h'.height_eq])]
  · rw [h.outside x y hcovered, h'.outside x y hcovered]

end Repaints

end Frame

/-! ### Accepted rectangles -/

namespace Framebuffer

theorem mem_clipRows_iff {fb : Framebuffer} {r : Rect} {p : Point} :
    p ∈ fb.clipRows r ↔ p ∈ r ∧ p.y < Rect.coordinateOfSize fb.height := by
  simp only [clipRows, Rect.clipRows, Rect.mem_iff, Int.lt_min, and_assoc]

theorem isEmpty_of_clipRows {fb : Framebuffer} {r : Rect} (h : (fb.clipRows r).isEmpty = false) :
    r.isEmpty = false := by
  obtain ⟨p, hp⟩ := Rect.exists_mem_of_nonempty h
  exact Rect.isEmpty_eq_false_of_mem (mem_clipRows_iff.1 hp).1

/-- A rectangle that the encoder has accepted for a buffer, and what it made of it. -/
structure Encoding (fb : Framebuffer) where
  rect : Rect
  buffer : TransferBuffer
  length : Nat
  filled : TransferBuffer
  encode_eq : fb.encode rect buffer = .ok (length, filled)

namespace Encoding

variable {fb : Framebuffer}

def packet (e : fb.Encoding) : ByteArray := e.filled.first e.length

/-- The part of the rectangle that the packet brings: no rows below the framebuffer. -/
def clipped (e : fb.Encoding) : Rect := fb.clipRows e.rect

/-- The packet of an accepted rectangle is that of the update under its header. -/
theorem exists_packet_eq (e : fb.Encoding) :
    ∃ h : UpdateHeader, e.clipped.Nameable ∧ h.rect = e.clipped ∧
      e.packet = (fb.update h).packet := by
  obtain ⟨h, hheader, hlength, hfilled⟩ := encode_eq_ok_iff.1 e.encode_eq
  obtain ⟨hn, hrect, -, hcap, -⟩ := headerFor_eq_ok_iff.1 hheader
  have hmod := (UpdateHeader.OnColumns.of_nameable (hrect ▸ hn)).width_mod
  refine ⟨h, hn, hrect, ?_⟩
  rw [packet, hlength, hfilled]
  refine TransferBuffer.first_write_zero ?_
  rwa [fb.size_packet_update (by omega), ← Update.packetLength_eq]

/-- A packet says which part of the framebuffer it brings. -/
theorem clipped_eq_of_packet_eq {e e' : fb.Encoding} (h : e.packet = e'.packet) :
    e.clipped = e'.clipped := by
  obtain ⟨header, hn, hrect, hpacket⟩ := e.exists_packet_eq
  obtain ⟨header', hn', hrect', hpacket'⟩ := e'.exists_packet_eq
  have hdecode := fb.decode_update (.of_nameable (hrect ▸ hn))
  have hdecode' := fb.decode_update (.of_nameable (hrect' ▸ hn'))
  rw [← hpacket, h, hpacket', hdecode', Except.ok.injEq] at hdecode
  rw [← hrect, ← hrect', show header = header' from (congrArg Update.header hdecode).symm]

/-- Every adapter takes the packet of an accepted rectangle, and its picture is then that of the
framebuffer in the rectangle and nowhere else. -/
theorem repaints_paint (e : fb.Encoding) (a : Adapter) :
    (a.paint e.packet).1 = .ok e.packet.size ∧
      (a.paint e.packet).2.frame.Repaints a.frame fb (· ∈ e.clipped) := by
  obtain ⟨h, hn, hrect, hpacket⟩ := e.exists_packet_eq
  have hc : h.OnColumns := .of_nameable (hrect ▸ hn)
  have hpos : 0 < h.width.toNat := by
    have hcolumns := (hrect ▸ hn : h.rect.Nameable).columns
    simp only [UpdateHeader.rect] at hcolumns
    omega
  rw [hpacket, a.paint_update fb hc, ← hrect]
  exact ⟨rfl, Frame.width_paint .., Frame.height_paint ..,
    fun x y hx hy hmem => Frame.pixel?_paint_update_of_mem hc hx hy hmem,
    fun x y hmem => Frame.pixel?_paint_update_of_not_mem hc hpos hmem⟩

/-- A part on whole columns of an accepted rectangle is accepted for the same buffer, if a header
can name its corner and it does not lie below the framebuffer. -/
theorem exists_of_contains (e : fb.Encoding) {r : Rect} (hrows : (fb.clipRows r).isEmpty = false)
    (hleft : r.x1 % 16 = 0) (hright : r.x2 % 16 = 0) (hx : r.x1 ≤ 4080) (hy : r.y1 ≤ 65535)
    (hcontains : e.rect.contains r = true) :
    ∃ part : fb.Encoding, part.rect = r ∧ part.buffer = e.buffer := by
  obtain ⟨h, hheader, -, -⟩ := encode_eq_ok_iff.1 e.encode_eq
  obtain ⟨hn, hrect, hle, hcap, hline⟩ := headerFor_eq_ok_iff.1 hheader
  have hr : r.isEmpty = false := isEmpty_of_clipRows hrows
  -- the lower end of the framebuffer is a term that must not be evaluated
  obtain ⟨bottom, hclip⟩ : ∃ bottom, ∀ s, fb.clipRows s = { s with y2 := min s.y2 bottom } :=
    ⟨_, fun _ => rfl⟩
  rw [hclip] at hrows hn hrect
  obtain ⟨hcolumns, hclipped⟩ := Rect.isEmpty_eq_false_iff.1 hrows
  obtain ⟨hx1, hy1, hx2, hy2⟩ := (Rect.contains_iff_of_nonempty hr).1 hcontains
  obtain ⟨-, -, hleft0, htop0, -, -, -, hwidth, -, hheight⟩ := hn
  have hn' : (fb.clipRows r).Nameable := by
    rw [hclip]
    simp only at hcolumns hclipped hleft0 htop0 hwidth hheight
    constructor <;> dsimp only <;> omega
  obtain ⟨header, hpart⟩ := UpdateHeader.exists_rect_eq hn'
  have hsmaller : header.width.toNat ≤ h.width.toNat ∧ header.height.toNat ≤ h.height.toNat := by
    rw [hclip] at hpart
    simp only [UpdateHeader.rect, Rect.mk.injEq] at hrect hpart
    omega
  have hlength := Nat.mul_le_mul (Nat.mul_le_mul_right 2 hsmaller.1) hsmaller.2
  have hok : fb.headerFor r e.buffer.capacity e.buffer.lineCapacity = .ok header := by
    refine headerFor_eq_ok_iff.2 ⟨hn', hpart, Int.le_trans hx2 hle, ?_, by omega⟩
    simp only [packetLength] at hcap ⊢
    omega
  exact ⟨⟨r, e.buffer, _, _, encode_eq_ok_iff.2 ⟨header, hok, rfl, rfl⟩⟩, rfl, rfl⟩

end Encoding

end Framebuffer

/-! ### Lists of packets -/

namespace Adapter

/-- Paints packets one after the other. -/
def paintAll (a : Adapter) : List ByteArray → List (Except TransportError Nat) × Adapter
  | [] => ([], a)
  | packet :: rest =>
    let (result, a) := a.paint packet
    let (results, a) := a.paintAll rest
    (result :: results, a)

variable {fb : Framebuffer}

theorem repaints_paintAll (a : Adapter) (sent : List fb.Encoding) :
    (a.paintAll (sent.map (·.packet))).1 = sent.map (fun e => .ok e.packet.size) ∧
      (a.paintAll (sent.map (·.packet))).2.frame.Repaints a.frame fb
        fun p => ∃ e ∈ sent, p ∈ e.clipped := by
  induction sent generalizing a with
  | nil => exact ⟨rfl, (Frame.Repaints.refl a.frame fb).congr fun p => by simp⟩
  | cons e rest ih =>
    obtain ⟨hresult, hfirst⟩ := e.repaints_paint a
    obtain ⟨hresults, hrest⟩ := ih (a.paint e.packet).2
    simp only [List.map_cons, paintAll]
    exact ⟨by rw [hresult, hresults], (hrest.trans hfirst).congr fun p => by simp⟩

/-- Lists of packets that cover the same places lead to the same picture. -/
theorem frame_paintAll_congr (a : Adapter) (sent sent' : List fb.Encoding)
    (h : ∀ p, (∃ e ∈ sent, p ∈ e.clipped) ↔ ∃ e ∈ sent', p ∈ e.clipped) :
    (a.paintAll (sent.map (·.packet))).2.frame = (a.paintAll (sent'.map (·.packet))).2.frame :=
  (a.repaints_paintAll sent).2.unique ((a.repaints_paintAll sent').2.congr h)

/-- A list of packets can be read as a list of encodings if each of them is one. -/
theorem exists_map_packet {sent : List fb.Encoding} {packets : List ByteArray}
    (h : ∀ packet ∈ packets, packet ∈ sent.map (·.packet)) :
    ∃ others : List fb.Encoding, others.map (·.packet) = packets ∧ ∀ e ∈ others, e ∈ sent := by
  induction packets with
  | nil => exact ⟨[], rfl, by simp⟩
  | cons packet rest ih =>
    obtain ⟨others, hothers, hmem⟩ := ih fun p hp => h p (List.mem_cons_of_mem packet hp)
    obtain ⟨e, he, hpacket⟩ := List.mem_map.1 (h packet List.mem_cons_self)
    refine ⟨e :: others, by rw [List.map_cons, hothers, hpacket], fun e' he' => ?_⟩
    rcases List.mem_cons.1 he' with rfl | hrest
    · exact he
    · exact hmem e' hrest

/-- The packets of accepted rectangles bring the pixels of their framebuffer to the places in them,
in any order and however often each one comes. If the rectangles cover an accepted one exactly, its
packet alone would have done the same. -/
theorem paintAll_packets (a : Adapter) (sent : List fb.Encoding) :
    let packets := sent.map (·.packet)
    let after := (a.paintAll packets).2
    (a.paintAll packets).1 = packets.map (fun packet => .ok packet.size) ∧
    after.frame.Repaints a.frame fb (fun p => ∃ e ∈ sent, p ∈ fb.clipRows e.rect) ∧
    (∀ others : List ByteArray, (∀ packet, packet ∈ others ↔ packet ∈ packets) →
      (a.paintAll others).2.frame = after.frame) ∧
    ∀ whole : fb.Encoding, (∀ p, p ∈ whole.rect ↔ ∃ e ∈ sent, p ∈ e.rect) →
      after.frame = (a.paint whole.packet).2.frame := by
  intro packets after
  obtain ⟨hresults, hrepaints⟩ := a.repaints_paintAll sent
  refine ⟨by rw [hresults, List.map_map]; rfl, hrepaints, fun others hmem => ?_,
    fun whole hwhole => ?_⟩
  · obtain ⟨resent, rfl, hsub⟩ := exists_map_packet fun packet hp => (hmem packet).1 hp
    refine a.frame_paintAll_congr resent sent fun p => ⟨fun ⟨e, he, hp⟩ => ⟨e, hsub e he, hp⟩, ?_⟩
    rintro ⟨e, he, hp⟩
    obtain ⟨e', he', hpacket⟩ := List.mem_map.1 ((hmem e.packet).2 (List.mem_map.2 ⟨e, he, rfl⟩))
    exact ⟨e', he', (Framebuffer.Encoding.clipped_eq_of_packet_eq hpacket) ▸ hp⟩
  · have hsingle : (a.paintAll ([whole].map (·.packet))).2 = (a.paint whole.packet).2 := by
      simp only [List.map_cons, List.map_nil, paintAll]
    rw [← hsingle]
    refine a.frame_paintAll_congr sent [whole] fun p => ?_
    simp only [List.mem_singleton, exists_eq_left, Framebuffer.Encoding.clipped,
      Framebuffer.mem_clipRows_iff, hwhole]
    exact ⟨fun ⟨e, he, hp, hy⟩ => ⟨⟨e, he, hp⟩, hy⟩, fun ⟨⟨e, he, hp⟩, hy⟩ => ⟨e, he, hp, hy⟩⟩

/-- Two halves of a rectangle, one of them sent twice. -/
theorem paintAll_packets_twoColumns :
    ∃ whole left right : (Framebuffer.black 32 1).Encoding,
      whole.rect = ⟨0, 0, 32, 1⟩ ∧ left.rect = ⟨0, 0, 16, 1⟩ ∧ right.rect = ⟨16, 0, 32, 1⟩ ∧
      (({} : Adapter).paintAll [right.packet, left.packet, right.packet]).2.frame =
        (({} : Adapter).paint whole.packet).2.frame := by
  let buffer : TransferBuffer := ⟨⟨Array.replicate 80 0⟩, Array.replicate 32 0⟩
  have hheader : (Framebuffer.black 32 1).headerFor ⟨0, 0, 32, 1⟩ buffer.capacity
      buffer.lineCapacity = .ok ⟨0, 0, 32, 1⟩ := rfl
  let whole : (Framebuffer.black 32 1).Encoding :=
    ⟨⟨0, 0, 32, 1⟩, buffer, _, _, Framebuffer.encode_eq_ok_iff.2 ⟨_, hheader, rfl, rfl⟩⟩
  obtain ⟨left, hleft, -⟩ := whole.exists_of_contains (r := ⟨0, 0, 16, 1⟩) rfl rfl rfl
    (by decide) (by decide) rfl
  obtain ⟨right, hright, -⟩ := whole.exists_of_contains (r := ⟨16, 0, 32, 1⟩) rfl rfl rfl
    (by decide) (by decide) rfl
  obtain ⟨-, -, hrepeated, hwhole⟩ := paintAll_packets {} [left, right]
  refine ⟨whole, left, right, rfl, hleft, hright, ?_⟩
  rw [hrepeated _ (by simp [or_comm]), hwhole whole]
  intro p
  simp only [List.mem_cons, List.not_mem_nil, or_false, exists_eq_or_imp, exists_eq_left, hleft,
    hright, Rect.mem_iff, whole]
  omega

end Adapter

end UsbDisplay
