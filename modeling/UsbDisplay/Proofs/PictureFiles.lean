import UsbDisplay.Png.Encode
import UsbDisplay.Proofs.PacketFormat
import UsbDisplay.Proofs.StoredBlocks

/-!
Picture files, read back. The chunks that a file is put together from are found in it again, and of
the rows that were written, with no filter, each is found behind the number of its filter. So a file
that was made of four samples of eight bits for each pixel holds these samples
(`Png.codec_restores`), unless a row is longer than what may be taken while a file is read.
-/

namespace UsbDisplay

open Pieces

/-- Joining piece by piece. -/
theorem Pieces.fold_append (n : Nat) (piece : Nat → ByteArray) (out : ByteArray) :
    n.fold (fun i _ out => out ++ piece i) out = out ++ join ((List.range n).map piece) := by
  induction n with
  | zero => simp
  | succ n ih =>
    rw [Nat.fold_succ, ih, List.range_succ, List.map_append, join_append, ByteArray.append_assoc]
    rfl

/-- A byte of a run is a piece of it. -/
theorem Pieces.push_getElem (out : ByteArray) {bytes : ByteArray} {i : Nat} (hi : i < bytes.size) :
    out.push bytes[i] = out ++ bytes.extract i (i + 1) := by
  have hpiece : bytes.extract i (i + 1) = [bytes[i]].toByteArray := by
    have hsize : (bytes.extract i (i + 1)).size = 1 := by
      rw [ByteArray.size_extract]
      omega
    refine ByteArray.ext_getElem hsize fun k hk _ => ?_
    obtain rfl : k = 0 := by omega
    rw [ByteArray.getElem_extract]
    rfl
  rw [hpiece, ByteArray.append_toByteArray_singleton]

theorem Pieces.push_four (out : ByteArray) {bytes : ByteArray} {i : Nat}
    (hi : i + 4 ≤ bytes.size) :
    (((out.push (bytes[i]?.getD 0)).push (bytes[i + 1]?.getD 0)).push (bytes[i + 2]?.getD 0)).push
        (bytes[i + 3]?.getD 0) = out ++ bytes.extract i (i + 4) := by
  have hbyte {k : Nat} (hk : k < bytes.size) : bytes[k]?.getD 0 = bytes[k] := by
    rw [getElem?_pos bytes k hk, Option.getD_some]
  have hstep (k : Nat) : bytes.extract i (i + k) ++ bytes.extract (i + k) (i + k + 1) =
      bytes.extract i (i + (k + 1)) := by
    rw [ByteArray.extract_append_extract]
    congr 1 <;> omega
  rw [hbyte (k := i) (by omega), hbyte (k := i + 1) (by omega), hbyte (k := i + 2) (by omega),
    hbyte (k := i + 3) (by omega)]
  simp only [push_getElem, ByteArray.append_assoc, hstep]

theorem Word.read32?_of_holds {bytes : ByteArray} {start : Nat} {w : UInt32}
    (h : Holds bytes start (bytes32 w).toByteArray) : read32? bytes start = some w := by
  have hsize : start + 4 ≤ bytes.size := h.1
  obtain ⟨h₀, hrest⟩ := h.cons
  obtain ⟨h₁, hrest⟩ := hrest.cons
  obtain ⟨h₂, hrest⟩ := hrest.cons
  obtain ⟨h₃, -⟩ := hrest.cons
  simp only [getElem?_eq_some_iff, Nat.add_assoc, Nat.reduceAdd] at h₀ h₁ h₂ h₃
  rw [read32?, dif_pos (by omega), h₀.2, h₁.2, h₂.2, h₃.2, ofBytes32_bytes32]

/-! ### Chunks -/

namespace Chunk

/-- A whole chunk, as it is found. -/
def found (c : Chunk) : Found := { c with size := c.data.size, sum? := some c.checksum }

@[simp] theorem isSound_found (c : Chunk) : c.found.isSound = true := by
  simp [Found.isSound, found]

theorem size_bytes (c : Chunk) : c.bytes.size = overhead + c.data.size := by
  simp only [bytes, ByteArray.size_append, List.size_toByteArray, List.length_append,
    Word.length_bytes32, overhead]
  omega

theorem read?_of_holds {file : ByteArray} {start : Nat} {c : Chunk}
    (hsize : c.data.size < 4294967296) (h : Holds file start c.bytes) :
    read? file start = some c.found := by
  rw [bytes, List.toByteArray_append] at h
  obtain ⟨hfront, hsum⟩ := holds_append.1 h
  obtain ⟨hhead, hdata⟩ := holds_append.1 hfront
  obtain ⟨hlength, hkind⟩ := holds_append.1 hhead
  have hcount : (UInt32.ofNat c.data.size).toNat = c.data.size := by
    rw [UInt32.toNat_ofNat']
    omega
  have hcontents : file.extract (start + 8) (start + 8 + c.data.size) = c.data := hdata.2
  have hsecond : Word.read32? file (start + 4) = some c.kind := Word.read32?_of_holds hkind
  have hlast := Word.read32?_of_holds hsum
  simp only [ByteArray.size_append, List.size_toByteArray, Word.length_bytes32, Nat.reduceAdd,
    ← Nat.add_assoc] at hlast
  rw [read?, Word.read32?_of_holds hlength, hsecond]
  simp only [hcount, hcontents, hlast]
  rfl

/-- The chunks of which a file is put together are found again. -/
theorem split_of_holds {file : ByteArray} {start : Nat} {chunks : List Chunk}
    (hsize : ∀ c ∈ chunks, c.data.size < 4294967296)
    (h : Holds file start (join (chunks.map bytes)))
    (hend : start + (join (chunks.map bytes)).size = file.size) :
    split file start = chunks.map found := by
  induction chunks generalizing start with
  | nil =>
    have hdone : file.size ≤ start := Nat.le_of_eq hend.symm
    rw [split, if_pos hdone]
    rfl
  | cons c rest ih =>
    rw [List.map_cons, join_cons] at h hend
    obtain ⟨hfirst, hrest⟩ := holds_append.1 h
    have hlength := c.size_bytes
    rw [ByteArray.size_append] at hend
    rw [split, if_neg (by simp only [overhead] at hlength; omega),
      read?_of_holds (hsize c List.mem_cons_self) hfirst]
    have hnext : start + overhead + c.data.size = start + c.bytes.size := by omega
    simp only [found, hnext]
    rw [ih (fun c hc => hsize c (List.mem_cons_of_mem _ hc)) hrest (by omega)]
    rfl

end Chunk

namespace Png

/-- The signature of a file and its chunks are found in it. -/
theorem holds_file {chunks : List Chunk} (hsize : ∀ c ∈ chunks, c.data.size < 4294967296) :
    let file := join (signature.toByteArray :: chunks.map Chunk.bytes)
    (file.extract 0 signature.length).data.toList = signature ∧
      Chunk.split file signature.length = chunks.map Chunk.found := by
  intro file
  have hfile : file = signature.toByteArray ++ join (chunks.map Chunk.bytes) := join_cons ..
  have hparts : Holds file 0 (signature.toByteArray ++ join (chunks.map Chunk.bytes)) := by
    rw [← hfile]
    exact holds_self file
  obtain ⟨⟨-, hmark⟩, hchunks⟩ := holds_append.1 hparts
  have hstart : 0 + signature.toByteArray.size = signature.length :=
    (Nat.zero_add _).trans List.size_toByteArray
  rw [hstart] at hmark hchunks
  refine ⟨?_, Chunk.split_of_holds hsize hchunks ?_⟩
  · rw [hmark, List.data_toByteArray]
  · rw [hfile, ByteArray.size_append, List.size_toByteArray]

/-! ### Rows -/

namespace Filter

/-- Without a filter a row is as it is. -/
theorem undo_none (stride : Nat) (above row : ByteArray) : none.undo stride above row = row := by
  have hall := join_extracts row 1 row.size (by omega)
  simp only [Nat.mul_one, ByteArray.extract_zero_size] at hall
  simp only [undo, predict, UInt8.add_zero, push_getElem, fold_append, hall]
  exact ByteArray.empty_append

end Filter

/-- A row behind the number of the empty filter. -/
def unfilteredRow (row : ByteArray) : ByteArray := [0].toByteArray ++ row

theorem unfilteredRows_eq (size count : Nat) (bytes : ByteArray) :
    unfilteredRows size count bytes = join (((List.range count).map fun y =>
      bytes.extract (y * size) ((y + 1) * size)).map unfilteredRow) := by
  have hpush (out : ByteArray) (y : Nat) :
      out.push 0 ++ bytes.extract (y * size) ((y + 1) * size) =
        out ++ unfilteredRow (bytes.extract (y * size) ((y + 1) * size)) := by
    rw [unfilteredRow, ← ByteArray.append_assoc, ByteArray.append_toByteArray_singleton]
  simp only [unfilteredRows, hpush, fold_append, List.map_map]
  exact ByteArray.empty_append

theorem rows?_of_holds (stride : Nat) {size start : Nat} {bytes : ByteArray}
    {rows : List ByteArray} (hsize : ∀ row ∈ rows, row.size = size)
    (h : Holds bytes start (join (rows.map unfilteredRow))) (soFar : Array ByteArray) :
    rows? stride size bytes rows.length start soFar = some (soFar ++ rows) := by
  induction rows generalizing start soFar with
  | nil => simp [rows?]
  | cons row rest ih =>
    obtain rfl := hsize row List.mem_cons_self
    rw [List.map_cons, join_cons] at h
    obtain ⟨hfirst, hrest⟩ := holds_append.1 h
    obtain ⟨hfilter, hrow⟩ := holds_append.1 hfirst
    have hcode : bytes[start]? = some 0 := hfilter.cons.1
    have hcontents : bytes.extract (start + 1) (start + 1 + row.size) = row := hrow.2
    have hroom : start + 1 + row.size ≤ bytes.size := hrow.1
    have hnext : start + (unfilteredRow row).size = start + 1 + row.size := by
      rw [unfilteredRow, ByteArray.size_append, Nat.add_assoc]
      rfl
    rw [hnext] at hrest
    rw [List.length_cons, rows?, if_pos hroom, hcode]
    simp only [Option.bind_some, Filter.ofCode?, hcontents, Filter.undo_none]
    rw [ih (fun other hother => hsize other (List.mem_cons_of_mem _ hother)) hrest]
    simp

/-! ### Chunks before the rows -/

/-- A header that goes with its kind of pixel is read back. -/
theorem Header.parse?_bytes {h : Header} (hwidth : h.width ≠ 0) (hheight : h.height ≠ 0)
    (hdepth : h.depth ∈ h.layout.depths) : parse? h.bytes = some h := by
  obtain ⟨width, height, depth, layout, isInterlaced⟩ := h
  have hsmall : depth ≤ 16 := by
    cases layout <;> simp [SampleLayout.depths] at hdepth <;> omega
  have hbyte : (UInt8.ofNat depth).toNat = depth := by
    rw [UInt8.toNat_ofNat']
    omega
  have hcontains : layout.depths.contains depth = true := List.contains_iff_mem.2 hdepth
  simp only [bytes, Word.bytes32, List.cons_append, List.nil_append, parse?,
    SampleLayout.ofCode?_code, Word.ofBytes32_bytes32, hbyte, hcontains]
  have hmark : (if isInterlaced = true then 1 else 0 : UInt8) ≤ 1 := by
    cases isInterlaced <;> decide
  rw [if_pos ⟨hwidth, hheight, trivial, trivial, trivial, hmark⟩]
  cases isInterlaced <;> rfl

/-- The chunk of a header. -/
def Header.chunk (h : Header) : Chunk := ⟨Chunk.header, h.bytes.toByteArray⟩

theorem Header.size_chunk (h : Header) : h.chunk.data.size = length :=
  List.size_toByteArray.trans h.length_bytes

theorem Metadata.spend?_header (h : Header) : spend? none h.chunk.found = some {} := by
  have hsize : h.chunk.found.size = Header.length := h.size_chunk
  have hhold : ({} : Allowance).hold? Header.length = some {} := by
    rw [Allowance.hold?, if_pos (by decide)]
  simp only [spend?, hsize, Option.elim, hhold]
  rfl

theorem Metadata.learn?_header {h : Header} (hparse : Header.parse? h.bytes = some h) :
    learn? none h.chunk = some { header := h } := by
  have hkept : h.chunk.data.extract 0 Header.length = h.chunk.data := by
    rw [← h.size_chunk, ByteArray.extract_zero_size]
  have hbytes : h.chunk.data.data.toList = h.bytes := by
    rw [Header.chunk, List.data_toByteArray]
  rw [learn?, hkept, hbytes, hparse]
  rfl

/-- The header is all that is read before the image data, if they follow it at once. -/
theorem Metadata.read?_header {h : Header} (hparse : Header.parse? h.bytes = some h)
    {c : Chunk.Found} (himage : c.kind = Chunk.imageData) (rest : List Chunk.Found) :
    Metadata.read? none (h.chunk.found :: c :: rest) = some ({ header := h }, c :: rest) := by
  have hkind : h.chunk.found.kind = Chunk.header := rfl
  have hsize : h.chunk.found.size = Header.length := h.size_chunk
  have hcome (m : Metadata) : mayCome (some m) Chunk.imageData = true := rfl
  rw [read?, hkind, if_neg (by decide), if_neg (by decide), Chunk.isSound_found,
    if_neg (by decide), hsize, if_neg (by decide), spend?_header,
    show h.chunk.found.toChunk = h.chunk from rfl, learn?_header hparse]
  simp only
  rw [read?, himage, hcome, if_neg (by decide), if_pos (by decide)]
  rfl

/-- Pieces of image data as chunks, with the end of the file behind them. -/
def imageChunks (pieces : List ByteArray) : List Chunk :=
  (pieces.map fun p => ⟨Chunk.imageData, p⟩) ++ [⟨Chunk.imageEnd, .empty⟩]

theorem imageChunks_cons (p : ByteArray) (more : List ByteArray) :
    imageChunks (p :: more) = ⟨Chunk.imageData, p⟩ :: imageChunks more := rfl

theorem rgbaChunks_eq (width height : UInt32) (rgba : ByteArray) :
    rgbaChunks width height rgba = (rgbaHeader width height).chunk :: imageChunks
      (pieces maxImageData (Zlib.encode (unfilteredRows (4 * width.toNat) height.toNat rgba))) :=
  rfl

theorem size_lt_of_mem_rgbaChunks {width height : UInt32} {rgba : ByteArray} :
    ∀ c ∈ rgbaChunks width height rgba, c.data.size < 4294967296 := by
  intro c hc
  rw [rgbaChunks_eq] at hc
  rcases List.mem_cons.1 hc with rfl | hc
  · rw [Header.size_chunk]
    decide
  rcases List.mem_append.1 hc with hc | hc
  · obtain ⟨p, hp, rfl⟩ := List.mem_map.1 hc
    exact Nat.lt_of_le_of_lt (size_le_of_mem_pieces (by decide) hp) (by decide)
  · rw [List.mem_singleton.1 hc]
    decide

theorem ImageData.run?_imageChunks (pieces : List ByteArray) (due : UInt32) :
    run? Chunk.imageData due ((imageChunks pieces).map Chunk.found) = some pieces := by
  induction pieces generalizing due with
  | nil => rfl
  | cons p more ih =>
    have hkind : (Chunk.found ⟨Chunk.imageData, p⟩).kind = Chunk.imageData := rfl
    rw [imageChunks_cons, List.map_cons, run?, if_neg (fun hne => hne hkind), Chunk.isSound_found,
      ih (due + 1)]
    rfl

/-- What is known of a picture with four samples of eight bits for each pixel. -/
def rgbaMetadata (width height : UInt32) : Metadata := { header := rgbaHeader width height }

/-- The header and the image data are found in the chunks of a picture. -/
theorem exists_read?_rgbaChunks {width height : UInt32} (hwidth : width ≠ 0) (hheight : height ≠ 0)
    (rgba : ByteArray) : ∃ chunks,
      Metadata.read? none ((rgbaChunks width height rgba).map Chunk.found) =
        some (rgbaMetadata width height, chunks) ∧
      ∀ m, ImageData.wrapped? m chunks =
        some (Zlib.encode (unfilteredRows (4 * width.toNat) height.toNat rgba)) := by
  rw [rgbaChunks_eq]
  generalize Zlib.encode (unfilteredRows (4 * width.toNat) height.toNat rgba) = wrapped
  have hjoin := join_pieces maxImageData wrapped
  obtain ⟨p, more, hpieces⟩ := List.exists_cons_of_ne_nil (pieces_ne_nil maxImageData wrapped)
  rw [hpieces] at hjoin ⊢
  refine ⟨(imageChunks (p :: more)).map Chunk.found, ?_, fun m => ?_⟩
  · exact Metadata.read?_header (Header.parse?_bytes hwidth hheight
      (show 8 ∈ SampleLayout.rgba.depths by decide)) rfl _
  · have hrun := ImageData.run?_imageChunks (p :: more) m.nextNumber
    have hother : Chunk.imageData ≠ Chunk.frameData := by decide
    rw [imageChunks_cons, List.map_cons] at hrun ⊢
    rw [ImageData.wrapped?, if_neg (fun h => hother h.1)]
    exact (congrArg (Option.map join) hrun).trans (congrArg some hjoin)

/-! ### Samples -/

theorem byte_sample (row : ByteArray) (i : Nat) : byte 8 (sample 8 row i) = row[i]?.getD 0 := by
  have hplace : i * 8 / 8 = i := Nat.mul_div_cancel i (by decide)
  have hstart : 8 - 8 - i * 8 % 8 = 0 := by omega
  simp only [byte, sample, hplace, hstart]
  simp

/-- The rows of a run of samples. -/
def rgbaRows (width height : UInt32) (rgba : ByteArray) : List ByteArray :=
  (List.range height.toNat).map fun y =>
    rgba.extract (y * (4 * width.toNat)) ((y + 1) * (4 * width.toNat))

theorem size_of_mem_rgbaRows {width height : UInt32} {rgba : ByteArray}
    (hsize : rgba.size = 4 * width.toNat * height.toNat) :
    ∀ row ∈ rgbaRows width height rgba, row.size = 4 * width.toNat := by
  intro row hrow
  obtain ⟨y, hy, rfl⟩ := List.mem_map.1 hrow
  have hend : (y + 1) * (4 * width.toNat) ≤ height.toNat * (4 * width.toNat) :=
    Nat.mul_le_mul_right _ (List.mem_range.1 hy)
  rw [ByteArray.size_extract, hsize, Nat.mul_comm _ height.toNat, Nat.min_eq_left hend,
    Nat.succ_mul, Nat.add_sub_cancel_left]

theorem passRows?_unfilteredRows {width height : UInt32} (hwidth : width ≠ 0) {rgba : ByteArray}
    (hsize : rgba.size = 4 * width.toNat * height.toNat) :
    passRows? (rgbaMetadata width height)
        (unfilteredRows (4 * width.toNat) height.toNat rgba) [Pass.whole] 0 =
      some [⟨Pass.whole, (rgbaRows width height rgba).toArray⟩] := by
  have hcolumns : Pass.whole.columns (rgbaMetadata width height).width = width.toNat :=
    Nat.div_one _
  have hcount : Pass.whole.rows (rgbaMetadata width height).height = height.toNat := Nat.div_one _
  have hbytes : (rgbaMetadata width height).header.rowBytes width.toNat = 4 * width.toNat := by
    have hbits : (rgbaMetadata width height).header.pixelBits = 32 := rfl
    rw [Header.rowBytes, hbits]
    omega
  have hpositive : width.toNat ≠ 0 := fun h => hwidth (UInt32.toNat_inj.1 h)
  have hholds : Holds (unfilteredRows (4 * width.toNat) height.toNat rgba) 0
      (join ((rgbaRows width height rgba).map unfilteredRow)) := by
    rw [rgbaRows, ← unfilteredRows_eq]
    exact holds_self _
  have hlength : (rgbaRows width height rgba).length = height.toNat := by simp [rgbaRows]
  have hrows := rows?_of_holds (rgbaMetadata width height).header.pixelStride
    (size_of_mem_rgbaRows hsize) hholds #[]
  rw [hlength] at hrows
  simp only [passRows?, hcolumns, hcount, hpositive, if_false, hbytes, hrows]
  simp

/-- A computation goes on behind a condition that holds. -/
theorem guard_eq_some {p : Prop} [Decidable p] (h : p) : (guard p : Option Unit) = some () :=
  if_pos h

theorem place?_rgbaRows {width height : UInt32} (rgba : ByteArray) {x y : Nat}
    (hx : x < width.toNat) (hy : y < height.toNat) :
    place? (rgbaMetadata width height) [⟨Pass.whole, (rgbaRows width height rgba).toArray⟩] x y =
      some (rgba.extract (y * (4 * width.toNat)) ((y + 1) * (4 * width.toNat)), x) := by
  have hcolumn : x < (rgbaMetadata width height).width := hx
  have hhas : Pass.whole.Has x y = true := by
    simp [Pass.Has, Pass.whole, Nat.mod_one]
  have hrow : (rgbaRows width height rgba)[y]? =
      some (rgba.extract (y * (4 * width.toNat)) ((y + 1) * (4 * width.toNat))) := by
    rw [rgbaRows, List.getElem?_map, List.getElem?_range hy]
    rfl
  rw [place?, guard_eq_some hcolumn]
  simp only [List.find?_cons, hhas]
  simp [Pass.whole, hrow]

/-- A pixel of the rows is four bytes of the run. -/
theorem pushPlace_rgbaRows {width height : UInt32} {rgba : ByteArray}
    (hsize : rgba.size = 4 * width.toNat * height.toNat) {i : Nat}
    (hi : i < width.toNat * height.toNat) (out : ByteArray) :
    pushPlace (rgbaMetadata width height) [⟨Pass.whole, (rgbaRows width height rgba).toArray⟩]
        (i % width.toNat) (i / width.toNat) out =
      out ++ rgba.extract (i * 4) ((i + 1) * 4) := by
  have hx : i % width.toNat < width.toNat := Nat.mod_lt _ (Nat.pos_of_lt_mul_right hi)
  have hy : i / width.toNat < height.toNat := Nat.div_lt_of_lt_mul hi
  have hi' : width.toNat * (i / width.toNat) + i % width.toNat = i := Nat.div_add_mod ..
  generalize i / width.toNat = y at *
  generalize i % width.toNat = x at *
  subst hi'
  have hpixel (row : ByteArray) : pushPixel (rgbaMetadata width height) row x out =
      (((out.push (row[x * 4]?.getD 0)).push (row[x * 4 + 1]?.getD 0)).push
        (row[x * 4 + 2]?.getD 0)).push (row[x * 4 + 3]?.getD 0) := by
    simp only [← byte_sample]
    rfl
  rw [pushPlace, place?_rgbaRows rgba hx hy]
  simp only [hpixel]
  have hend : (y + 1) * (4 * width.toNat) ≤ height.toNat * (4 * width.toNat) :=
    Nat.mul_le_mul_right _ hy
  have hstart : y * (4 * width.toNat) = width.toNat * y * 4 := by ac_rfl
  have hstop : (y + 1) * (4 * width.toNat) = y * (4 * width.toNat) + 4 * width.toNat :=
    Nat.succ_mul ..
  have htotal : height.toNat * (4 * width.toNat) = rgba.size := by rw [hsize]; ac_rfl
  rw [push_four out (by rw [ByteArray.size_extract]; omega), ByteArray.extract_extract,
    Nat.min_eq_left (by omega)]
  congr 2 <;> omega

theorem assemble_rgbaRows {width height : UInt32} {rgba : ByteArray}
    (hsize : rgba.size = 4 * width.toNat * height.toNat) :
    assemble (rgbaMetadata width height)
        [⟨Pass.whole, (rgbaRows width height rgba).toArray⟩] =
      ⟨width.toNat, height.toNat, .rgba, 4 * width.toNat, rgba⟩ := by
  have htotal : width.toNat * height.toNat * 4 = rgba.size := by rw [hsize]; ac_rfl
  have hbytes (n : Nat) (hn : n ≤ width.toNat * height.toNat) (out : ByteArray) :
      n.fold (fun i _ out => pushPlace (rgbaMetadata width height)
        [⟨Pass.whole, (rgbaRows width height rgba).toArray⟩] (i % width.toNat) (i / width.toNat)
        out) out = out ++ rgba.extract 0 (n * 4) := by
    induction n with
    | zero => simp
    | succ n ih =>
      rw [Nat.fold_succ, ih (Nat.le_of_succ_le hn), pushPlace_rgbaRows hsize hn,
        ByteArray.append_assoc, ByteArray.extract_append_extract]
      congr 2
      omega
  have hall := hbytes _ (Nat.le_refl _) (ByteArray.emptyWithCapacity
    ((rgbaMetadata width height).rowSamples * (rgbaMetadata width height).height))
  rw [htotal, ByteArray.extract_zero_size] at hall
  have hrow : (rgbaMetadata width height).rowSamples = 4 * width.toNat := Nat.mul_comm ..
  rw [assemble, hrow]
  exact congrArg (Samples.mk _ _ _ _) (hall.trans ByteArray.empty_append)

/-! ### Files -/

/-- A codec gives back the samples of a picture that it made a file of. -/
def Codec.Restores (c : Codec) (width height : UInt32) (rgba : ByteArray) : Prop :=
  ∃ file, c.encode width height rgba = some file ∧
    c.decode file = some ⟨width.toNat, height.toNat, .rgba, 4 * width.toNat, rgba⟩

/-- The most columns of which a row is within what may be taken while a file is read. -/
def maxColumns : Nat := 16777216

theorem isShowable_rgbaMetadata {width : UInt32} (height : UInt32)
    (hcolumns : width.toNat ≤ maxColumns) : (rgbaMetadata width height).isShowable = true := by
  simp only [maxColumns] at hcolumns
  have hheight := height.toNat_lt
  have hrow : (rgbaMetadata width height).rowSamples = width.toNat * 4 := rfl
  have htotal : (rgbaMetadata width height).header.expandedSize = width.toNat * 4 * height.toNat :=
    rfl
  have hroom : (({} : Allowance).take? (width.toNat * 4)).isSome = true := by
    rw [Allowance.take?, if_pos (show width.toNat * 4 ≤ 67108864 by omega)]
    rfl
  have hcounted : width.toNat * 4 * height.toNat < UInt64.size :=
    Nat.lt_of_le_of_lt (Nat.mul_le_mul_right _ (Nat.mul_le_mul_right 4 hcolumns)) (by
      simp only [UInt64.size]
      omega)
  rw [Metadata.isShowable, hrow, htotal, decide_eq_true hcounted]
  exact Bool.and_eq_true_iff.2 ⟨Bool.and_eq_true_iff.2 ⟨hroom, rfl⟩, rfl⟩

theorem codec_restores {width height : UInt32} (hwidth : width ≠ 0) (hheight : height ≠ 0)
    (hcolumns : width.toNat ≤ maxColumns) {rgba : ByteArray}
    (hsize : rgba.size = 4 * width.toNat * height.toNat) : codec.Restores width height rgba := by
  obtain ⟨hmark, hsplit⟩ := holds_file (@size_lt_of_mem_rgbaChunks width height rgba)
  obtain ⟨chunks, hread, hwrapped⟩ := exists_read?_rgbaChunks hwidth hheight rgba
  refine ⟨_, if_pos ⟨hwidth, hheight, hsize⟩, ?_⟩
  show decode? _ = _
  rw [decode?, hsplit, hread, guard_eq_some hmark]
  dsimp only [Option.bind_eq_bind, Option.bind_some]
  rw [guard_eq_some (isShowable_rgbaMetadata height hcolumns)]
  simp only [Option.pure_def, Option.bind_some, hwrapped, Zlib.decode?_encode]
  rw [show passes (rgbaMetadata width height).header = [Pass.whole] from rfl,
    passRows?_unfilteredRows hwidth hsize, Option.bind_some, assemble_rgbaRows hsize]

end Png

end UsbDisplay
