import Mathlib.Data.Set.Function
import UsbDisplay.Proofs.PacketFormat

/-!
Rectangles and the heads of their packets. A head is eight bytes: the marker, the left column, the
top row, the number of columns and the number of rows. Each rectangle that can be named has one head
and each head that names something has one rectangle (`UpdateHeader.head?_bijOn`), so what arrives
is what was sent.

A header keeps its numbers in words of 16 bits and writes its columns as bytes. Both narrowings are
done here a second time with a look at the number first (`UpdateHeader.ofRect?`,
`UpdateHeader.bytes?`), and no number that has passed the checks turns out to be too large.
-/

namespace UsbDisplay

namespace Word

/-- A number as a word; `none` if the word cannot hold it. -/
def ofInt? (n : Int) : Option UInt16 :=
  if 0 ≤ n ∧ n < 65536 then some (UInt16.ofNat n.toNat) else none

/-- A word as a byte; `none` if the byte cannot hold it. -/
def byte? (w : UInt16) : Option UInt8 :=
  if w.toNat < 256 then some w.toUInt8 else none

theorem ofInt?_eq {n : Int} (hn : 0 ≤ n) (h : n < 65536) :
    ofInt? n = some (UInt16.ofNat n.toNat) :=
  if_pos ⟨hn, h⟩

theorem byte?_eq {w : UInt16} (h : w.toNat < 256) : byte? w = some w.toUInt8 :=
  if_pos h

theorem byte?_column {w : UInt16} (h : w.toNat ≤ 4080) :
    byte? (w / 16) = some (w / 16).toUInt8 := by
  apply byte?_eq
  rw [UInt16.toNat_div]
  exact Nat.lt_succ_of_le (Nat.div_le_div_right h)

end Word

namespace UpdateHeader

variable {r : Rect} {h : UpdateHeader} {b : ByteArray}

/-! ### Narrowing -/

/-- The header for a rectangle, with a look at every number that becomes a word. -/
def ofRect? (r : Rect) : Option (Except PacketFault UpdateHeader) :=
  if r.isEmpty || decide (r.x1 < 0) || decide (r.y1 < 0) then some (.error .emptyOrNegative)
  else if r.x1 % 16 ≠ 0 ∨ r.width % 16 ≠ 0 then some (.error .offColumn)
  else if 255 < r.x1 / 16 ∨ 255 < r.width / 16 then some (.error .beyondColumns)
  else if 65535 < r.y1 ∨ 65535 < r.height then some (.error .beyondRows)
  else do
    return .ok
      { x := ← Word.ofInt? r.x1
        y := ← Word.ofInt? r.y1
        width := ← Word.ofInt? r.width
        height := ← Word.ofInt? r.height }

/-- The bytes of a header, with a look at every word that becomes a byte. -/
def bytes? (h : UpdateHeader) : Option (List UInt8) := do
  return [0xFF, 0x00, ← Word.byte? (h.x / 16), Word.high h.y, Word.low h.y,
    ← Word.byte? (h.width / 16), Word.high h.height, Word.low h.height]

theorem ofRect?_eq (r : Rect) : ofRect? r = some (ofRect r) := by
  unfold ofRect? ofRect
  split
  · rfl
  next hsigns =>
    split
    · rfl
    split
    · rfl
    next hcolumns =>
      split
      · rfl
      next hrows =>
        simp only [Bool.or_eq_true, decide_eq_true_eq, not_or] at hsigns hcolumns hrows
        rw [Word.ofInt?_eq (by omega) (by omega), Word.ofInt?_eq (by omega) (by omega),
          Word.ofInt?_eq (by omega) (by omega), Word.ofInt?_eq (by omega) (by omega)]
        rfl

theorem bytes?_eq (hc : h.OnColumns) : h.bytes? = some h.bytes := by
  rw [bytes?, Word.byte?_column hc.left_le, Word.byte?_column hc.width_le]
  rfl

/-- The bounds of the rectangle of a header are coordinates, whatever the header. -/
theorem representable_rect (h : UpdateHeader) : h.rect.Representable := by
  have := h.x.toNat_lt
  have := h.y.toNat_lt
  have := h.width.toNat_lt
  have := h.height.toNat_lt
  simp only [rect, Rect.Representable, Rect.minCoordinate, Rect.maxCoordinate]
  omega

/-! ### Headers and rectangles -/

theorem exists_ofRect_iff : (∃ h, ofRect r = .ok h) ↔ r.Nameable := by
  constructor
  · rintro ⟨h, hr⟩
    exact (ofRect_eq_ok_iff.1 hr).1
  · intro hr
    obtain ⟨h, hrect⟩ := exists_rect_eq hr
    exact ⟨h, ofRect_eq_ok_iff.2 ⟨hr, hrect⟩⟩

-- The farthest corner that a header can name, and the first column beyond.
example : ofRect ⟨4080, 65535, 8160, 131070⟩ = .ok ⟨4080, 65535, 4080, 65535⟩ ∧
    ofRect ⟨4096, 0, 4112, 1⟩ = .error .beyondColumns := by decide

theorem onColumns_of_ofRect (hr : ofRect r = .ok h) : h.OnColumns := by
  obtain ⟨hnameable, rfl⟩ := ofRect_eq_ok_iff.1 hr
  exact .of_nameable hnameable

/-- The rectangle of a header on columns can be named exactly if it has an area. -/
theorem OnColumns.nameable_rect_iff (hc : h.OnColumns) :
    h.rect.Nameable ↔ 0 < h.width.toNat ∧ 0 < h.height.toNat := by
  constructor
  · intro hnameable
    have hcolumns := hnameable.columns
    have hrows := hnameable.rows
    simp only [rect] at hcolumns hrows
    omega
  · rintro ⟨hwidth, hheight⟩
    obtain ⟨hleftMod, hleft, hwidthMod, hwidthLe⟩ := hc
    have := h.y.toNat_lt
    have := h.height.toNat_lt
    constructor <;> simp only [rect] <;> omega

/-! ### Headers and bytes -/

theorem parse_bytes (hc : h.OnColumns) : parse h.bytes.toByteArray = .ok h := by
  have hparse := parse_bytes_append hc .empty
  rwa [ByteArray.append_empty] at hparse

theorem parse_bytes_iff : parse h.bytes.toByteArray = .ok h ↔ h.OnColumns :=
  ⟨fun hparse => (of_parse hparse).1, parse_bytes⟩

/-! ### Heads -/

/-- The numbers in the eight bytes of a head. Two bytes for a row or a number of rows have the
higher one first; columns are counted by 16 pixels. -/
structure HeadParts where
  column : UInt8
  topHigh : UInt8
  topLow : UInt8
  columns : UInt8
  rowsHigh : UInt8
  rowsLow : UInt8

namespace HeadParts

def head (t : HeadParts) : ByteArray :=
  [0xFF, 0x00, t.column, t.topHigh, t.topLow, t.columns, t.rowsHigh, t.rowsLow].toByteArray

/-- What the parts say about a header. -/
structure Says (t : HeadParts) (h : UpdateHeader) : Prop where
  x : h.x.toNat = 16 * t.column.toNat
  y : h.y.toNat = 256 * t.topHigh.toNat + t.topLow.toNat
  width : h.width.toNat = 16 * t.columns.toNat
  height : h.height.toNat = 256 * t.rowsHigh.toNat + t.rowsLow.toNat

/-- The parts count at least one column and at least one row. -/
def HasArea (t : HeadParts) : Prop :=
  t.columns ≠ 0 ∧ (t.rowsHigh ≠ 0 ∨ t.rowsLow ≠ 0)

variable {t : HeadParts}

theorem Says.hasArea_iff (hparts : t.Says h) :
    t.HasArea ↔ 0 < h.width.toNat ∧ 0 < h.height.toNat := by
  rw [hparts.width, hparts.height]
  simp only [HasArea, ne_eq, ← UInt8.toNat_inj, UInt8.toNat_zero]
  omega

theorem Says.onColumns (hparts : t.Says h) : h.OnColumns := by
  obtain ⟨hx, -, hwidth, -⟩ := hparts
  have := t.column.toNat_lt
  have := t.columns.toNat_lt
  constructor <;> omega

/-- The parts of the head of a header. -/
def ofHeader (h : UpdateHeader) : HeadParts where
  column := (h.x / 16).toUInt8
  topHigh := Word.high h.y
  topLow := Word.low h.y
  columns := (h.width / 16).toUInt8
  rowsHigh := Word.high h.height
  rowsLow := Word.low h.height

@[simp] theorem head_ofHeader (h : UpdateHeader) : (ofHeader h).head = h.bytes.toByteArray := rfl

theorem says_ofHeader (hc : h.OnColumns) : (ofHeader h).Says h where
  x := (toNat_column_byte hc.left_mod hc.left_le).symm
  y := (Word.toNat_high_low h.y).symm
  width := (toNat_column_byte hc.width_mod hc.width_le).symm
  height := (Word.toNat_high_low h.height).symm

/-- The header that the parts say. -/
def header (t : HeadParts) : UpdateHeader where
  x := t.column.toUInt16 * 16
  y := Word.ofBytes t.topHigh t.topLow
  width := t.columns.toUInt16 * 16
  height := Word.ofBytes t.rowsHigh t.rowsLow

@[simp] theorem bytes_header (t : HeadParts) : t.header.bytes.toByteArray = t.head := by
  simp only [bytes, header, byte_of_column, Word.high_ofBytes, Word.low_ofBytes]
  rfl

theorem says_header (t : HeadParts) : t.Says t.header where
  x := toNat_column t.column
  y := by rw [header, Word.toNat_ofBytes, Nat.mul_comm]
  width := toNat_column t.columns
  height := by rw [header, Word.toNat_ofBytes, Nat.mul_comm]

end HeadParts

/-- Eight bytes with the marker that name a rectangle with columns and rows. -/
def IsHead (b : ByteArray) : Prop :=
  ∃ t : HeadParts, t.head = b ∧ t.HasArea

/-- The head of the packet for a rectangle, if there is one. -/
def head? (r : Rect) : Option ByteArray :=
  match ofRect r with
  | .ok h => some h.bytes.toByteArray
  | .error _ => none

theorem head?_of_ok (hr : ofRect r = .ok h) : head? r = some h.bytes.toByteArray := by
  rw [head?, hr]

theorem isHead_of_ofRect (hr : ofRect r = .ok h) : IsHead h.bytes.toByteArray := by
  have hc := onColumns_of_ofRect hr
  obtain ⟨hnameable, rfl⟩ := ofRect_eq_ok_iff.1 hr
  have harea := hc.nameable_rect_iff.1 hnameable
  exact ⟨.ofHeader h, rfl, (HeadParts.says_ofHeader hc).hasArea_iff.2 harea⟩

/-- What a head says is a header whose rectangle can be named. -/
theorem exists_ofRect_of_isHead (hb : IsHead b) :
    ∃ h, ofRect h.rect = .ok h ∧ h.bytes.toByteArray = b := by
  obtain ⟨t, rfl, harea⟩ := hb
  have hparts := t.says_header
  have hnameable := hparts.onColumns.nameable_rect_iff.2 (hparts.hasArea_iff.1 harea)
  exact ⟨t.header, ofRect_eq_ok_iff.2 ⟨hnameable, rfl⟩, t.bytes_header⟩

theorem head?_mapsTo : Set.MapsTo head? {r | r.Nameable} (some '' {b | IsHead b}) := by
  intro r hr
  obtain ⟨h, hok⟩ := exists_ofRect_iff.2 hr
  exact ⟨_, isHead_of_ofRect hok, (head?_of_ok hok).symm⟩

theorem head?_injOn : Set.InjOn head? {r | r.Nameable} := by
  intro r hr s hs heq
  obtain ⟨h, hok⟩ := exists_ofRect_iff.2 hr
  obtain ⟨h', hok'⟩ := exists_ofRect_iff.2 hs
  rw [head?_of_ok hok, head?_of_ok hok'] at heq
  -- equal heads are parsed to the same header, and a header has one rectangle
  have hparse := parse_bytes (onColumns_of_ofRect hok)
  rw [Option.some.inj heq, parse_bytes (onColumns_of_ofRect hok')] at hparse
  rw [← (ofRect_eq_ok_iff.1 hok).2, ← (ofRect_eq_ok_iff.1 hok').2, Except.ok.inj hparse]

theorem head?_surjOn : Set.SurjOn head? {r | r.Nameable} (some '' {b | IsHead b}) := by
  rintro _ ⟨b, hb, rfl⟩
  obtain ⟨h, hok, rfl⟩ := exists_ofRect_of_isHead hb
  exact ⟨h.rect, exists_ofRect_iff.1 ⟨h, hok⟩, head?_of_ok hok⟩

/-- Rectangles that can be named and heads that name something belong to each other one to one. -/
theorem head?_bijOn : Set.BijOn head? {r | r.Nameable} (some '' {b | IsHead b}) :=
  ⟨head?_mapsTo, head?_injOn, head?_surjOn⟩

/-! ### Nothing is lost -/

/-- What becomes of a rectangle that is to be named. -/
structure NamesRect (r : Rect) : Prop where
  named_iff : (∃ h, ofRect r = .ok h) ↔ r.Nameable
  /-- No number is cut down when it becomes a word, -/
  narrowed : ofRect? r = some (ofRect r)
  /-- and no word when it becomes a byte. -/
  written : ∀ h, ofRect r = .ok h → h.bytes? = some h.bytes
  parse_bytes : ∀ h, ofRect r = .ok h → parse h.bytes.toByteArray = .ok h
  rect_eq : ∀ h, ofRect r = .ok h → h.rect = r

/-- What becomes of a header that is written, whether it is on columns or not. -/
structure WritesHeader (h : UpdateHeader) : Prop where
  parse_bytes_iff : parse h.bytes.toByteArray = .ok h ↔
    (h.x.toNat % 16 = 0 ∧ h.x.toNat ≤ 4080) ∧ h.width.toNat % 16 = 0 ∧ h.width.toNat ≤ 4080
  representable_rect : h.rect.Representable

/-- What becomes of bytes that are read as a head. -/
structure ReadsHead (b : ByteArray) : Prop where
  bytes_eq : ∀ h, parse b = .ok h → h.bytes.toByteArray = b.extract 0 8
  written : ∀ h, parse b = .ok h → h.bytes? = some h.bytes
  /-- The words of the header hold the numbers in the bytes. -/
  parts : ∀ h, parse b = .ok h → ∃ t : HeadParts, t.head = b.extract 0 8 ∧ t.Says h

theorem onColumns_iff : h.OnColumns ↔
    (h.x.toNat % 16 = 0 ∧ h.x.toNat ≤ 4080) ∧ h.width.toNat % 16 = 0 ∧ h.width.toNat ≤ 4080 := by
  constructor
  · intro hc
    exact ⟨⟨hc.left_mod, hc.left_le⟩, hc.width_mod, hc.width_le⟩
  · rintro ⟨⟨hleft, hleftLe⟩, hwidth, hwidthLe⟩
    exact ⟨hleft, hleftLe, hwidth, hwidthLe⟩

/-- Heads name rectangles one to one, and whichever of rectangle, header and bytes one starts from,
nothing is lost on the way to the others and back. -/
theorem heads_name_exactly : Set.BijOn head? {r | r.Nameable} (some '' {b | IsHead b}) ∧
    (∀ r, NamesRect r) ∧ (∀ h, WritesHeader h) ∧ ∀ b, ReadsHead b := by
  refine ⟨head?_bijOn, fun r => ?_, fun h => ?_, fun b => ?_⟩
  · exact {
      named_iff := exists_ofRect_iff
      narrowed := ofRect?_eq r
      written := fun h hr => bytes?_eq (onColumns_of_ofRect hr)
      parse_bytes := fun h hr => parse_bytes (onColumns_of_ofRect hr)
      rect_eq := fun h hr => (ofRect_eq_ok_iff.1 hr).2 }
  · exact ⟨parse_bytes_iff.trans onColumns_iff, representable_rect h⟩
  · exact {
      bytes_eq := fun h hparse => (of_parse hparse).2.symm
      written := fun h hparse => bytes?_eq (of_parse hparse).1
      parts := fun h hparse => ⟨.ofHeader h, (of_parse hparse).2.symm,
        HeadParts.says_ofHeader (of_parse hparse).1⟩ }

end UpdateHeader

end UsbDisplay
