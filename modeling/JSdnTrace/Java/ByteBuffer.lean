/-
  `java.nio.ByteBuffer` over a wrapped array, with its cursor. The fields
  `position_le` and `limit_le` are the class invariant, so a cursor outside the window
  cannot be built.

  * `wrap`, `get`, `getInt`, `getLong` throw as the JDK specifies; the three reads are one
    `read` at a width.
  * `put`, `putInt`, `putLong` and `put(byte[])` are one `write`.
  * `read_of_le` executes a read inside the window and `read_bind_eq_ok` inverts one.
  * `write_written` executes a write on a buffer filled from the front.
  * `throwsOwn_wrap`, `throwsOwn_read`, `throwsOwn_write`: what goes wrong is unchecked.
-/
import JSdnTrace.Java.Effect
import JSdnTrace.Java.Bytes

namespace JSdnTrace.Java

/-- `new byte[length]`. -/
def newArray (length : JInt) : Except Throwable (List JByte) :=
  if length.toInt < 0 then .error .negativeArraySize
  else .ok (List.replicate length.toNat 0)

/-- `data[0]`. -/
def arrayHead (data : List JByte) : Except Throwable JByte :=
  match data with
  | [] => .error .arrayIndexOutOfBounds
  | b :: _ => .ok b

/-- `data[i]`. -/
def arrayAt (data : List JByte) (i : Nat) : Except Throwable JByte :=
  if i < data.length then .ok (byteAt data i) else .error .arrayIndexOutOfBounds

theorem arrayAt_of_lt {data : List JByte} {i : Nat} (h : i < data.length) :
    arrayAt data i = .ok (byteAt data i) :=
  if_pos h

/-- An index past the end is an unchecked exception. -/
theorem throwsOwn_arrayAt (data : List JByte) (i : Nat) : ThrowsOwn (arrayAt data i) := by
  unfold arrayAt
  split
  · exact throwsOnly_ok _
  · exact throwsOnly_error trivial

theorem throwsOwn_arrayHead (data : List JByte) : ThrowsOwn (arrayHead data) := by
  cases data with
  | nil => exact throwsOnly_error trivial
  | cons b rest => exact throwsOnly_ok b

theorem newArray_eq_ok {length : JInt} {data : List JByte} (h : newArray length = .ok data) :
    data = List.replicate length.toNat 0 := by
  unfold newArray at h
  split at h
  · cases h
  · cases h
    rfl

theorem newArray_of_lt {length : JInt} (h : length.toNat < 0x80000000) :
    newArray length = .ok (List.replicate length.toNat 0) := by
  unfold newArray
  rw [BitVec.toInt_eq_toNat_of_lt (by omega), if_neg (by omega)]

theorem newArray_of_le {length : JInt} (h : 0x80000000 ≤ length.toNat) :
    newArray length = .error .negativeArraySize := by
  unfold newArray
  rw [if_pos]
  rw [BitVec.toInt_eq_toNat_cond, if_neg (by omega)]
  omega

theorem throwsOwn_newArray (length : JInt) : ThrowsOwn (newArray length) := by
  unfold newArray
  split
  · exact throwsOnly_error trivial
  · exact throwsOnly_ok _

@[ext]
structure ByteBuffer where
  hb : List JByte
  position : Nat
  limit : Nat
  position_le : position ≤ limit
  limit_le : limit ≤ hb.length

namespace ByteBuffer

/-- `ByteBuffer.wrap(data, offset, length)`. -/
def wrap (data : List JByte) (offset length : Int) : Except Throwable ByteBuffer :=
  if h : 0 ≤ offset ∧ 0 ≤ length ∧ offset + length ≤ data.length then
    .ok ⟨data, offset.toNat, (offset + length).toNat, by omega, by omega⟩
  else .error .indexOutOfBounds

/-- `ByteBuffer.wrap(data)`. -/
def wrapAll (data : List JByte) : ByteBuffer :=
  ⟨data, 0, data.length, Nat.zero_le _, Nat.le_refl _⟩

/-! ## Reading -/

/-- A relative read of `width` bytes, decoded by `value` at the cursor. -/
def read {α : Type} (width : Nat) (value : List JByte → Nat → α) (bb : ByteBuffer) :
    Except Throwable (α × ByteBuffer) :=
  if h : bb.position + width ≤ bb.limit then
    .ok (value bb.hb bb.position, { bb with position := bb.position + width, position_le := h })
  else .error .bufferUnderflow

def get (bb : ByteBuffer) : Except Throwable (JByte × ByteBuffer) := bb.read 1 byteAt

def getInt (bb : ByteBuffer) : Except Throwable (JInt × ByteBuffer) := bb.read 4 intAt

def getLong (bb : ByteBuffer) : Except Throwable (JLong × ByteBuffer) := bb.read 8 longAt

theorem wrap_of_le {data : List JByte} {offset length : Int} (h0 : 0 ≤ offset)
    (hl : 0 ≤ length) (h : offset + length ≤ data.length) :
    wrap data offset length =
      .ok ⟨data, offset.toNat, (offset + length).toNat, by omega, by omega⟩ := by
  unfold wrap
  rw [dif_pos ⟨h0, hl, h⟩]

theorem wrap_eq_ok {data : List JByte} {offset length : Int} {bb : ByteBuffer}
    (h : wrap data offset length = .ok bb) :
    0 ≤ offset ∧ 0 ≤ length ∧ offset + length ≤ data.length ∧ bb.hb = data ∧
      bb.position = offset.toNat ∧ bb.limit = (offset + length).toNat := by
  unfold wrap at h
  split at h
  · next hb =>
    obtain ⟨h0, hl, hle⟩ := hb
    cases h
    exact ⟨h0, hl, hle, rfl, rfl, rfl⟩
  · cases h

theorem read_of_le {α : Type} {width : Nat} {value : List JByte → Nat → α} {data : List JByte}
    {p limit : Nat} {hp : p ≤ limit} {hl : limit ≤ data.length} (h : p + width ≤ limit) :
    read width value ⟨data, p, limit, hp, hl⟩ =
      .ok (value data p, ⟨data, p + width, limit, h, hl⟩) := by
  unfold read
  rw [dif_pos h]

/-- A window that does not fit is an unchecked exception. -/
theorem throwsOwn_wrap (data : List JByte) (offset length : Int) :
    ThrowsOwn (wrap data offset length) := by
  unfold wrap
  split
  · exact throwsOnly_ok _
  · exact throwsOnly_error trivial

/-- So is a read past the window. -/
theorem throwsOwn_read {α : Type} (width : Nat) (value : List JByte → Nat → α)
    (bb : ByteBuffer) : ThrowsOwn (bb.read width value) := by
  unfold read
  split
  · exact throwsOnly_ok _
  · exact throwsOnly_error trivial

/-- Inverting a read inside a block that returned. -/
theorem read_bind_eq_ok {α β : Type} {width : Nat} {value : List JByte → Nat → α}
    {bb : ByteBuffer} {f : α × ByteBuffer → Except Throwable β} {b : β} :
    (bb.read width value >>= f) = .ok b ↔
      ∃ h : bb.position + width ≤ bb.limit,
        f (value bb.hb bb.position,
          ⟨bb.hb, bb.position + width, bb.limit, h, bb.limit_le⟩) = .ok b := by
  unfold read
  split
  · next h => simp [h]
  · next h => simp [h]

/-! ## Writing -/

/-- A relative write of the bytes `bs`. -/
def write (bs : List JByte) (bb : ByteBuffer) : Except Throwable ByteBuffer :=
  if h : bb.position + bs.length ≤ bb.limit then
    .ok ⟨bb.hb.take bb.position ++ bs ++ bb.hb.drop (bb.position + bs.length),
      bb.position + bs.length, bb.limit, h, by have := bb.limit_le; simp; omega⟩
  else .error .bufferOverflow

def put (bb : ByteBuffer) (b : JByte) : Except Throwable ByteBuffer := bb.write [b]

def putInt (bb : ByteBuffer) (v : JInt) : Except Throwable ByteBuffer := bb.write (intBytes v)

def putLong (bb : ByteBuffer) (v : JLong) : Except Throwable ByteBuffer := bb.write (longBytes v)

/-- `bb.put(src)` and `bb.put(src, 0, src.length)`. -/
def putAll (bb : ByteBuffer) (src : List JByte) : Except Throwable ByteBuffer := bb.write src

/-- A write past the end is an unchecked exception too. -/
theorem throwsOwn_write (bs : List JByte) (bb : ByteBuffer) : ThrowsOwn (bb.write bs) := by
  unfold write
  split
  · exact throwsOnly_ok _
  · exact throwsOnly_error trivial

theorem length_hb_write {bs : List JByte} {bb bb' : ByteBuffer} (h : bb.write bs = .ok bb') :
    bb'.hb.length = bb.hb.length := by
  have hle := bb.limit_le
  unfold write at h
  split at h
  · next hfit =>
    cases h
    simp only [List.length_append, List.length_take, List.length_drop]
    omega
  · cases h

/-- A fresh array filled with `w` from the front, with `k` zero bytes left. -/
def written (w : List JByte) (k : Nat) : ByteBuffer :=
  ⟨w ++ List.replicate k 0, w.length, w.length + k, by omega, by simp⟩

theorem hb_written_zeros (w : List JByte) (k m : Nat) :
    (written (w ++ List.replicate k 0) m).hb = w ++ List.replicate (k + m) 0 := by
  rw [← List.replicate_append_replicate, ← List.append_assoc]
  rfl

theorem wrapAll_replicate (n : Nat) : wrapAll (List.replicate n 0) = written [] n := by
  apply ByteBuffer.ext <;> simp [wrapAll, written]

theorem write_written {w bs : List JByte} {k : Nat} (h : bs.length ≤ k) :
    (written w k).write bs = .ok (written (w ++ bs) (k - bs.length)) := by
  have hfit : (written w k).position + bs.length ≤ (written w k).limit := by
    simp only [written]
    omega
  unfold write
  rw [dif_pos hfit]
  congr 1
  apply ByteBuffer.ext
  · simp only [written, List.take_left', List.drop_append, List.drop_replicate,
      Nat.add_sub_cancel_left]
    rw [List.drop_of_length_le (by omega), List.nil_append]
  · simp [written]
  · simp only [written, List.length_append]
    omega

theorem write_written_eq_ok {w bs : List JByte} {k : Nat} {bb : ByteBuffer}
    (h : (written w k).write bs = .ok bb) :
    bs.length ≤ k ∧ bb = written (w ++ bs) (k - bs.length) := by
  have hfit : bs.length ≤ k := by
    unfold write at h
    split at h
    · next hfit =>
      simp only [written] at hfit
      omega
    · cases h
  rw [write_written hfit] at h
  cases h
  exact ⟨hfit, rfl⟩

theorem write_overflow {w bs : List JByte} {k : Nat} (h : k < bs.length) :
    (written w k).write bs = .error .bufferOverflow := by
  unfold write
  rw [dif_neg (by simp only [written]; omega)]

/-- Two writes in a row are one write of both. -/
theorem write_write (w bs cs : List JByte) (k : Nat) :
    ((written w k).write bs >>= fun bb => bb.write cs) = (written w k).write (bs ++ cs) := by
  by_cases hb : bs.length ≤ k
  · rw [write_written hb]
    show (written (w ++ bs) (k - bs.length)).write cs = _
    by_cases hc : cs.length ≤ k - bs.length
    · have hbc : (bs ++ cs).length ≤ k := by rw [List.length_append]; omega
      rw [write_written hc, write_written hbc, List.append_assoc, List.length_append, Nat.sub_sub]
    · have hbc : k < (bs ++ cs).length := by rw [List.length_append]; omega
      rw [write_overflow (by omega), write_overflow hbc]
  · have hbc : k < (bs ++ cs).length := by rw [List.length_append]; omega
    rw [write_overflow (by omega), write_overflow hbc]
    rfl

/-- `write_write` inside a longer block. -/
theorem write_write_bind {α : Type} (w bs cs : List JByte) (k : Nat)
    (f : ByteBuffer → Except Throwable α) :
    ((written w k).write bs >>= fun bb => bb.write cs >>= f) =
      (written w k).write (bs ++ cs) >>= f := by
  rw [← write_write, bind_assoc]

end ByteBuffer

end JSdnTrace.Java
