import UsbDisplay.Proofs.AdapterSettings
import UsbDisplay.Proofs.FlatPicture

/-!
What exchanges with an adapter do to its picture. A bulk exchange that goes through paints the
pixels that its packet holds for the places in the rectangle of its header and in the picture, and
changes nothing if its bytes are no packet; a write to the resolution register blanks the picture
and gives it its size; nothing else touches it. So a picture that is kept as one run of pixels
follows every run of exchanges without a store out of bounds (`Adapter.flatRun?_raster`).
-/

namespace UsbDisplay

/-! ### The pixels of an update -/

/-- The pixel that the payload of an update holds for a place in its rectangle: luma of the pixel
itself, colour differences of its pair. -/
def Update.pixel? (u : Update) (x y : Nat) : Option Pixel := do
  let pair := y * u.header.lineLength + 4 * (x / 2)
  return Yuv.pixel
    ⟨← u.payload[pair + 2 * (x % 2) + 1]?, ← u.payload[pair]?, ← u.payload[pair + 2]?⟩

/-- A pixel of an unpacked line, from the payload. -/
theorem Update.Filled.pixel?_eq {u : Update} (hfilled : u.Filled)
    (heven : u.header.width.toNat % 2 = 0) {x y : Nat} (hx : x < u.header.width.toNat)
    (hy : y < u.header.height.toNat) (hlt : x < (Scanline.pixels (u.line y)).size) :
    u.pixel? x y = some (Scanline.pixels (u.line y))[x] := by
  have hend : (y + 1) * u.header.lineLength ≤ u.payload.size := by
    rw [hfilled]
    exact Nat.mul_le_mul_right _ hy
  have hlength : u.header.lineLength = 2 * u.header.width.toNat := Nat.mul_comm ..
  rw [Nat.succ_mul] at hend
  rw [Scanline.getElem_pixels _ hlt, Update.pixel?, getElem?_pos u.payload _ (by omega),
    getElem?_pos u.payload _ (by omega), getElem?_pos u.payload _ (by omega)]
  simp only [Update.line, ByteArray.getElem_extract, Nat.add_assoc]
  rfl

namespace Frame

/-- Painting replaces the pixels that are both in the rectangle of the header and in the picture. -/
theorem pixel?_paint (f : Frame) {u : Update} (heven : u.header.width.toNat % 2 = 0)
    (hfilled : u.Filled) (x y : Nat) :
    (f.paint u).pixel? x y =
      if (⟨x, y⟩ : Point) ∈ u.header.rect ∧ x < f.width ∧ y < f.height then
        u.pixel? (x - u.header.x.toNat) (y - u.header.y.toNat)
      else f.pixel? x y := by
  have hcount := hfilled.lineCount
  simp only [Rect.mem_iff, UpdateHeader.rect]
  split
  next hin =>
    rw [if_neg (by omega)] at hcount
    have hi : y - u.header.y.toNat < u.lineCount := by omega
    have hright : x - u.header.x.toNat <
        (Scanline.pixels (u.line (y - u.header.y.toNat))).size := by
      rw [hfilled.size_pixels_line heven hi]
      omega
    rw [hfilled.pixel?_eq heven (by omega) (by omega) hright]
    exact pixel?_paintLines_of_mem hin.2.1 hin.2.2 (by omega) (by omega) (by omega) hright
  next hout =>
    by_cases hframe : x < f.width ∧ y < f.height
    · refine pixel?_paintLines_of_not_mem fun i hi => ?_
      rw [hfilled.size_pixels_line heven (by omega)]
      split at hcount <;> omega
    · rw [pixel?, pixel?, dif_neg hframe, dif_neg (by rwa [width_paint, height_paint])]

/-! ### Changes of a picture -/

/-- What can happen to a picture. -/
inductive Change where
  | blank (width height : UInt16)
  | paint (u : Update)

/-- The picture after a change, or after none. -/
def apply (f : Frame) : Option Change → Frame
  | none => f
  | some (.blank width height) => .blank width.toNat height.toNat
  | some (.paint u) => f.paint u

end Frame

/-- A change of a raster; `none` would be a store out of bounds. -/
def Raster.apply? (r : Raster) : Option Frame.Change → Option Raster
  | none => some r
  | some (.blank width height) => some (.blank width.toNat height.toNat)
  | some (.paint u) => r.paint? u

theorem Update.fits_of_decode {packet : ByteArray} {u : Update} (h : Update.decode packet = .ok u) :
    u.header.width.toNat % 2 = 0 ∧ u.Filled := by
  obtain ⟨hcolumns, hsize, -⟩ := Update.decode_eq_ok_iff.1 h
  have hmod := hcolumns.width_mod
  exact ⟨by omega, Update.filled_of_size hsize⟩

/-! ### Exchanges with an adapter -/

namespace Adapter

/-- What can happen to an adapter. Bulk calls that do not return at once wait, may be told to stop
meanwhile, and go on one at a time. -/
inductive Exchange where
  | controlOut (data : List UInt8)
  | controlIn (buffer : List UInt8)
  | bulkOut (packet : ByteArray) (isCancelled : Bool)
  | resume (call : BulkCall)
  | waiting (calls : List BulkCall)
  | faults (f : Faults)
  | setRegister (address : UInt16) (value : UInt8)
  | clearControlLog

def step (a : Adapter) : Exchange → Adapter
  | .controlOut data => (a.controlOut data).2
  | .controlIn buffer => (a.controlIn buffer).2.2
  | .bulkOut packet isCancelled => (a.bulkOut packet isCancelled).2
  | .resume call => (a.resume call).2
  | .waiting calls => { a with calls := calls }
  | .faults f => { a with faults := f }
  | .setRegister address value => a.setRegister address value
  | .clearControlLog => a.clearControlLog

def run (a : Adapter) (exchanges : List Exchange) : Adapter := exchanges.foldl step a

/-- What a bulk exchange with this answer does to the picture. -/
def painted? (packet : ByteArray) : Option (Except TransportError Nat) → Option Frame.Change
  | some (.ok _) => (Update.decode packet).toOption.map .paint
  | _ => none

/-- What a write that was taken does to the picture. -/
def written? (address : UInt16) (data : Register.Payload) : Option Frame.Change :=
  if address = Register.resolution then
    some (.blank (writtenSize data).1 (writtenSize data).2)
  else none

/-- What an exchange does to the picture, as far as its bytes and its answer tell. -/
def change? (a : Adapter) : Exchange → Option Frame.Change
  | .controlOut data =>
    match (a.controlOut data).1, Register.Request.parse? data with
    | .ok _, some (.write address payload) => written? address payload
    | _, _ => none
  | .bulkOut packet isCancelled => painted? packet (a.bulkOut packet isCancelled).1
  | .resume call => painted? call.packet (a.resume call).1
  | _ => none

/-- Keeps the picture of an adapter in a raster; `none` would be a store out of bounds. -/
def flatRun? (a : Adapter) (r : Raster) : List Exchange → Option Raster
  | [] => some r
  | e :: rest => do flatRun? (a.step e) (← r.apply? (a.change? e)) rest

variable {a : Adapter}

theorem frame_applyWrite (address : UInt16) (data : Register.Payload) :
    (a.applyWrite address data).frame = a.frame.apply (written? address data) := by
  rw [applyWrite, written?]
  split <;> rfl

theorem frame_controlOut (data : List UInt8) :
    (a.controlOut data).2.frame = a.frame.apply (a.change? (.controlOut data)) := by
  rcases a.controlOut_cases data with ⟨e, h⟩ | ⟨address, hparse, h⟩ | ⟨address, payload, hparse, h⟩
  · simp only [change?, h]
    rfl
  · simp only [change?, h, hparse]
    rfl
  · simp only [change?, h, hparse]
    exact frame_applyWrite address payload

/-- A packet is painted if its bytes are an update. -/
theorem frame_paint (packet : ByteArray) :
    (a.paint packet).2.frame = a.frame.apply (painted? packet (some (a.paint packet).1)) := by
  cases h : Update.decode packet with
  | error fault =>
    rw [a.paint_of_error h]
    rfl
  | ok u =>
    rw [a.paint_of_ok h, painted?, h]
    rfl

theorem frame_bulkOut (packet : ByteArray) (isCancelled : Bool) :
    (a.bulkOut packet isCancelled).2.frame =
      a.frame.apply (painted? packet (a.bulkOut packet isCancelled).1) := by
  rcases a.bulkOut_cases packet isCancelled with h | ⟨e, h⟩ | h <;> rw [h]
  · rfl
  · rfl
  · exact frame_paint packet

theorem frame_resume (call : BulkCall) :
    (a.resume call).2.frame = a.frame.apply (painted? call.packet (a.resume call).1) := by
  rcases a.resume_cases call with h | ⟨e, h⟩ | h <;> rw [h]
  · rfl
  · rfl
  · exact frame_paint call.packet

theorem frame_controlIn (buffer : List UInt8) : (a.controlIn buffer).2.2.frame = a.frame := by
  obtain ⟨pendingRead, h⟩ := a.controlIn_after buffer
  rw [h]

/-- An exchange changes the picture as its bytes and its answer tell. -/
theorem frame_step (e : Exchange) : (a.step e).frame = a.frame.apply (a.change? e) := by
  cases e with
  | controlOut data => exact frame_controlOut data
  | controlIn buffer => exact frame_controlIn buffer
  | bulkOut packet isCancelled => exact frame_bulkOut packet isCancelled
  | resume call => exact frame_resume call
  | waiting calls => rfl
  | faults f => rfl
  | setRegister address value => rfl
  | clearControlLog => rfl

/-! ### Runs of exchanges -/

theorem paint_of_painted {packet : ByteArray} {answer : Option (Except TransportError Nat)}
    {change : Frame.Change} (h : painted? packet answer = some change) :
    ∃ u, Update.decode packet = .ok u ∧ change = .paint u := by
  unfold painted? at h
  split at h
  · cases hdecode : Update.decode packet with
    | error fault =>
      rw [hdecode] at h
      cases h
    | ok u =>
      rw [hdecode] at h
      exact ⟨u, rfl, (Option.some.inj h).symm⟩
  · cases h

/-- A write that is taken is one that the bytes of the exchange ask for. -/
theorem controlOut_of_write (a : Adapter) {data : List UInt8} {address : UInt16}
    {payload : Register.Payload} {n : Nat}
    (hparse : Register.Request.parse? data = some (.write address payload))
    (hok : (a.controlOut data).1 = .ok n) :
    a.controlOut data = (.ok data.length, a.applyWrite address payload) := by
  rcases a.controlOut_cases data with ⟨e, h⟩ | ⟨other, hread, h⟩ | ⟨other, bytes, hwrite, h⟩
  · rw [h] at hok
    cases hok
  · cases hparse.symm.trans hread
  · obtain ⟨rfl, rfl⟩ := Register.Request.write.inj (Option.some.inj (hparse.symm.trans hwrite))
    exact h

/-- Only taken writes to the resolution register blank a picture, and only what was decoded is
painted. -/
theorem change?_cases {e : Exchange} {change : Frame.Change} (h : a.change? e = some change) :
    (∃ data payload, e = .controlOut data ∧
      Register.Request.parse? data = some (.write Register.resolution payload) ∧
      (a.controlOut data).1 = .ok data.length ∧
      change = .blank (writtenSize payload).1 (writtenSize payload).2) ∨
    ∃ packet u, Update.decode packet = .ok u ∧ change = .paint u := by
  cases e with
  | controlOut data =>
    rw [change?] at h
    split at h
    next n address payload hok hparse =>
      rw [written?] at h
      split at h
      next haddress =>
        refine .inl ⟨data, payload, rfl, haddress ▸ hparse, ?_, (Option.some.inj h).symm⟩
        rw [a.controlOut_of_write hparse hok]
      · cases h
    · cases h
  | bulkOut packet isCancelled =>
    obtain ⟨u, hdecode, hchange⟩ := paint_of_painted h
    exact .inr ⟨packet, u, hdecode, hchange⟩
  | resume call =>
    obtain ⟨u, hdecode, hchange⟩ := paint_of_painted h
    exact .inr ⟨call.packet, u, hdecode, hchange⟩
  | controlIn | waiting | faults | setRegister | clearControlLog => cases h

/-- A raster that has the picture before an exchange has it afterwards. -/
theorem apply?_raster (a : Adapter) (e : Exchange) :
    a.frame.raster.apply? (a.change? e) = some (a.step e).frame.raster := by
  rw [frame_step]
  cases hchange : a.change? e with
  | none => rfl
  | some change =>
    rcases change?_cases hchange with ⟨_, _, -, -, -, rfl⟩ | ⟨packet, u, hdecode, rfl⟩
    · exact congrArg some (Frame.raster_blank ..).symm
    · obtain ⟨heven, hfilled⟩ := Update.fits_of_decode hdecode
      exact a.frame.paint?_raster heven hfilled

/-- The picture can be kept in one run of pixels: no store is ever out of bounds. -/
theorem flatRun?_raster (a : Adapter) (exchanges : List Exchange) :
    a.flatRun? a.frame.raster exchanges = some (a.run exchanges).frame.raster := by
  induction exchanges generalizing a with
  | nil => rfl
  | cons e rest ih =>
    rw [flatRun?, a.apply?_raster e]
    exact ih (a.step e)

/-- The size of a picture is a pair of words. -/
def SizeInWords (a : Adapter) : Prop := a.frame.width < 65536 ∧ a.frame.height < 65536

theorem SizeInWords.step (h : a.SizeInWords) (e : Exchange) : (a.step e).SizeInWords := by
  rw [SizeInWords, frame_step]
  cases a.change? e with
  | none => exact h
  | some change =>
    cases change with
    | blank width height => exact ⟨width.toNat_lt, height.toNat_lt⟩
    | paint u =>
      simp only [Frame.apply, Frame.width_paint, Frame.height_paint]
      exact h

theorem SizeInWords.run (h : a.SizeInWords) (exchanges : List Exchange) :
    (a.run exchanges).SizeInWords := by
  induction exchanges generalizing a with
  | nil => exact h
  | cons e rest ih => exact ih (h.step e)

/-! ### Exact painting -/

/-- What a bulk exchange that goes through makes of its bytes. -/
structure Takes (a after : Adapter) (packet : ByteArray) (answer : Except TransportError Nat) :
    Prop where
  ok_iff : answer = .ok packet.size ↔ ∃ u, Update.decode packet = .ok u
  /-- Besides the picture only the record of what was painted changes. -/
  accepted : ∀ u, Update.decode packet = .ok u → after =
    { a with
      frame := after.frame
      updates := a.updates.push u.header
      lastPacket := packet }
  width_eq : after.frame.width = a.frame.width
  height_eq : after.frame.height = a.frame.height
  pixel : ∀ u, Update.decode packet = .ok u → ∀ x y, after.frame.pixel? x y =
    if (⟨x, y⟩ : Point) ∈ u.header.rect ∧ x < a.frame.width ∧ y < a.frame.height then
      u.pixel? (x - u.header.x.toNat) (y - u.header.y.toNat)
    else a.frame.pixel? x y
  rejected : ∀ fault, Update.decode packet = .error fault →
    answer = .error (.io (Error.malformedPacket fault).message) ∧ after = a

theorem takes_paint (a : Adapter) (packet : ByteArray) :
    a.Takes (a.paint packet).2 packet (a.paint packet).1 := by
  cases h : Update.decode packet with
  | error fault =>
    rw [a.paint_of_error h]
    exact ⟨by simp [h], by simp [h], rfl, rfl, by simp [h], by simp [h]⟩
  | ok u =>
    obtain ⟨heven, hfilled⟩ := Update.fits_of_decode h
    rw [a.paint_of_ok h]
    refine ⟨by simp [h], fun v hv => ?_, Frame.width_paint .., Frame.height_paint ..,
      fun v hv => ?_, by simp [h]⟩
    all_goals obtain rfl := Except.ok.inj (h.symm.trans hv)
    · rfl
    · exact a.frame.pixel?_paint heven hfilled

/-- The picture of an adapter has a pixel for each place and is painted exactly. -/
structure PaintsExactly (a : Adapter) : Prop where
  size_pixels : a.frame.raster.pixels.size = a.frame.width * a.frame.height
  sizeInWords : a.SizeInWords
  pixel_raster : ∀ x y, a.frame.raster.pixel? x y = a.frame.pixel? x y
  pixel_isSome : ∀ x y, (a.frame.pixel? x y).isSome = true ↔ x < a.frame.width ∧ y < a.frame.height
  /-- A call that does not fail, is not told to stop and does not have to wait. -/
  bulkOut : ∀ packet isCancelled, a.faults.bulk = none → (isCancelled && a.heedsCancel) = false →
    a.faults.stalled = false → ∃ answer, (a.bulkOut packet isCancelled).1 = some answer ∧
      a.Takes (a.bulkOut packet isCancelled).2 packet answer
  /-- While the adapter stalls, a call does not return and nothing changes. -/
  stalled : ∀ packet isCancelled, a.faults.bulk = none → (isCancelled && a.heedsCancel) = false →
    a.faults.stalled = true → a.bulkOut packet isCancelled = (none, a)
  /-- A call that has waited and waits no longer. -/
  resume : ∀ call : BulkCall, (call.isCancelled && a.heedsCancel) = false →
    a.faults.stalled = false → call.isSlow = false → ∃ answer, (a.resume call).1 = some answer ∧
      a.Takes (a.resume call).2 call.packet answer
  /-- Only a write to the resolution register that is taken changes the size. -/
  resized : ∀ e, (a.step e).frame.width ≠ a.frame.width ∨
    (a.step e).frame.height ≠ a.frame.height → ∃ data payload, e = .controlOut data ∧
      Register.Request.parse? data = some (.write Register.resolution payload) ∧
      (a.controlOut data).1 = .ok data.length
  /-- Such a write leaves nothing of the picture. -/
  blanked : ∀ data payload n,
    Register.Request.parse? data = some (.write Register.resolution payload) →
    (a.controlOut data).1 = .ok n → (a.controlOut data).2.frame =
      .blank (writtenSize payload).1.toNat (writtenSize payload).2.toNat

theorem bulkOut_eq (a : Adapter) (packet : ByteArray) {isCancelled : Bool}
    (hbulk : a.faults.bulk = none) (hcancel : (isCancelled && a.heedsCancel) = false)
    (hstalled : a.faults.stalled = false) :
    a.bulkOut packet isCancelled = (some (a.paint packet).1, (a.paint packet).2) := by
  rw [bulkOut, hbulk, hcancel, hstalled]
  rfl

theorem resume_eq (a : Adapter) {call : BulkCall}
    (hcancel : (call.isCancelled && a.heedsCancel) = false) (hstalled : a.faults.stalled = false)
    (hslow : call.isSlow = false) :
    a.resume call = (some (a.paint call.packet).1, (a.paint call.packet).2) := by
  rw [resume, hcancel, hstalled, hslow]
  rfl

/-- Only a write to the resolution register that is taken changes the size. -/
theorem write_of_resized {e : Exchange} (h : (a.step e).frame.width ≠ a.frame.width ∨
    (a.step e).frame.height ≠ a.frame.height) :
    ∃ data payload, e = .controlOut data ∧
      Register.Request.parse? data = some (.write Register.resolution payload) ∧
      (a.controlOut data).1 = .ok data.length := by
  rw [frame_step] at h
  cases hchange : a.change? e with
  | none => simp [hchange, Frame.apply] at h
  | some change =>
    rcases change?_cases hchange with ⟨data, payload, he, hparse, hok, -⟩ | ⟨_, u, -, rfl⟩
    · exact ⟨data, payload, he, hparse, hok⟩
    · simp [hchange, Frame.apply] at h

theorem paintsExactly_of_sizeInWords (h : a.SizeInWords) : a.PaintsExactly where
  size_pixels := a.frame.size_pixels_raster
  sizeInWords := h
  pixel_raster := a.frame.pixel?_raster
  pixel_isSome := a.frame.pixel?_isSome
  bulkOut packet isCancelled hbulk hcancel hstalled := by
    rw [a.bulkOut_eq packet hbulk hcancel hstalled]
    exact ⟨_, rfl, a.takes_paint packet⟩
  stalled packet isCancelled hbulk hcancel hstalled := by
    rw [Adapter.bulkOut, hbulk, hcancel, hstalled]
    rfl
  resume call hcancel hstalled hslow := by
    rw [a.resume_eq hcancel hstalled hslow]
    exact ⟨_, rfl, a.takes_paint call.packet⟩
  resized _ hsize := write_of_resized hsize
  blanked data payload n hparse hok := by
    rw [a.controlOut_of_write hparse hok, frame_applyWrite, written?, if_pos rfl]
    rfl

/-- After any exchanges an adapter has a pixel for each place of its picture, in one run of pixels
that was never left, and paints exactly. -/
theorem paintsExactly_run (exchanges : List Exchange) :
    ({} : Adapter).flatRun? (.blank 800 600) exchanges =
        some (({} : Adapter).run exchanges).frame.raster ∧
      (({} : Adapter).run exchanges).PaintsExactly := by
  have hstart : SizeInWords {} := ⟨by decide, by decide⟩
  refine ⟨?_, paintsExactly_of_sizeInWords (hstart.run exchanges)⟩
  have hrun := flatRun?_raster {} exchanges
  rwa [show ({} : Adapter).frame.raster = .blank 800 600 from Frame.raster_blank 800 600] at hrun

end Adapter

end UsbDisplay
