/-
  The checksums of Jpcap. Both loops add the words as the machine reads them, with the low byte
  first; a receiver adds them with the high byte first.

  * `verifies_header`: the header of a packet with its checksum.
  * `verifies_segment`: what is sent over TCP or UDP, with the pseudo header.
  * `verifies_inCksum_iff`: `in_cksum` over an odd number of bytes takes the byte behind them in
    place of the last.
-/
import JSdnTrace.Jpcap.IpHeader
import JSdnTrace.Lib.OnesComplement

namespace JSdnTrace.Jpcap

open Java Lib

/-- The loop over the words, and what is added for a last byte. -/
def addWords (last : JByte → Nat) : Nat → List JByte → Nat
  | sum, [] => sum
  | sum, [a] => sum + last a
  | sum, a :: b :: data => addWords last (sum + littleEndian a b) data

/-- The end of both functions. -/
def foldSum (sum : Nat) : JShort :=
  let sum := (sum &&& 0xffff) + (sum >>> 16)
  ~~~ BitVec.ofNat 16 ((sum >>> 16) + (sum &&& 0xffff))

/-- `in_cksum`; `next` is the byte behind the data. -/
def inCksum (data : List JByte) (next : JByte) : JShort :=
  foldSum (addWords (fun a => ((next ++ a : JShort) &&& 0xff00).toNat) 0 data)

/-- `in_cksum2`. -/
def inCksum2 (ip : Ip) (len : JShort) (data : List JByte) : JShort :=
  let sum := addWords (·.toNat) 0 (intBytes ip.src ++ intBytes ip.dst)
  let sum := sum + (htons (ip.p.setWidth 16)).toNat
  let sum := sum + len.toNat
  foldSum (addWords (·.toNat) sum data)

/-! ## The sums -/

theorem littleEndian_shortMemory (v : JShort) :
    littleEndian (v.extractLsb' 0 8) (v.extractLsb' 8 8) = v.toNat := by
  have hv := v.isLt
  unfold littleEndian
  rw [BitVec.extractLsb'_toNat, BitVec.extractLsb'_toNat, Nat.shiftRight_eq_div_pow,
    Nat.shiftRight_eq_div_pow]
  omega

theorem addWords_append (last : JByte → Nat) {pre : List JByte} (h : Even pre.length)
    (post : List JByte) (sum : Nat) :
    addWords last sum (pre ++ post) = addWords last (sum + wordSum littleEndian pre) post := by
  induction pre using wordSum.induct generalizing sum with
  | case1 => rfl
  | case2 a => exact absurd h Nat.not_even_one
  | case3 a b rest ih =>
    rw [List.length_cons, List.length_cons, Nat.even_add_one, Nat.even_add_one, not_not] at h
    rw [List.cons_append, List.cons_append, addWords, ih h, wordSum, Nat.add_assoc]

theorem addWords_even (last : JByte → Nat) {data : List JByte} (h : Even data.length)
    (sum : Nat) : addWords last sum data = sum + wordSum littleEndian data := by
  have happend := addWords_append last h [] sum
  rwa [List.append_nil] at happend

theorem addWords_toNat (data : List JByte) (sum : Nat) :
    addWords (·.toNat) sum data = sum + wordSum littleEndian data := by
  induction data using wordSum.induct generalizing sum with
  | case1 => rfl
  | case2 a => rfl
  | case3 a b rest ih => rw [addWords, ih, wordSum, Nat.add_assoc]

theorem toNat_foldSum {sum : Nat} (h : sum < 0x100000000) :
    (foldSum sum).toNat = 65535 - fold (fold sum) := by
  have hmod : ∀ n : Nat, n &&& 0xffff = n % 65536 := fun n => Nat.and_two_pow_sub_one_eq_mod n 16
  have hdiv : ∀ n : Nat, n >>> 16 = n / 65536 := fun n => Nat.shiftRight_eq_div_pow n 16
  have hfold : (foldSum sum) = ~~~ BitVec.ofNat 16 (fold (fold sum)) := by
    unfold foldSum fold
    simp only [hmod, hdiv, Nat.add_comm]
  have hle := fold_fold_le h
  rw [hfold, BitVec.toNat_not, BitVec.toNat_ofNat]
  omega

theorem wordSum_lt {data : List JByte} (h : data.length ≤ 65536) :
    wordSum littleEndian data < 0x100000000 := by
  have hle := wordSum_little_le data
  omega

/-- The checksum in place of the zeros. -/
theorem verifies_foldSum {pre post : List JByte} (heven : Even pre.length)
    (hlength : (pre ++ 0 :: 0 :: post).length ≤ 65536) :
    Verifies (pre ++ (shortMemory (foldSum (wordSum littleEndian (pre ++ 0 :: 0 :: post))) ++
      post)) := by
  have hlt := wordSum_lt hlength
  refine (verifies_insert_iff heven _ _ post).mpr ?_
  rw [littleEndian_shortMemory, toNat_foldSum hlt]
  exact dvd_add_complement hlt

/-! ## The header -/

/-- The checksum stands behind ten bytes. -/
theorem exists_around_sum (ip : Ip) :
    ∃ pre post : List JByte, pre.length = 10 ∧ post.length = 8 ∧
      ∀ v, { ip with sum := v }.bytes = pre ++ (shortMemory v ++ post) := by
  refine ⟨[0x45, ip.tos] ++ shortMemory ip.len ++ shortMemory ip.id ++ shortMemory ip.off ++
    [ip.ttl, ip.p], intBytes ip.src ++ intBytes ip.dst, rfl, rfl, fun v => ?_⟩
  unfold Ip.bytes
  rw [List.append_assoc _ (intBytes ip.src), List.append_assoc _ (shortMemory v)]

theorem verifies_header (ip : Ip) (next : JByte) :
    Verifies { ip with sum := inCksum { ip with sum := 0 }.bytes next }.bytes := by
  obtain ⟨pre, post, hpre, hpost, hbytes⟩ := exists_around_sum ip
  have hlength : (pre ++ 0 :: 0 :: post).length = 20 := by
    rw [List.length_append, List.length_cons, List.length_cons, hpre, hpost]
  have hsum : inCksum { ip with sum := 0 }.bytes next =
      foldSum (wordSum littleEndian (pre ++ 0 :: 0 :: post)) := by
    have hzero : { ip with sum := 0 }.bytes = pre ++ 0 :: 0 :: post := hbytes 0
    unfold inCksum
    rw [hzero, addWords_even _ (by rw [hlength]; decide), Nat.zero_add]
  rw [hsum, hbytes]
  exact verifies_foldSum (by rw [hpre]; decide) (by rw [hlength]; decide)

/-! ## TCP and UDP -/

/-- What is added for the addresses, the protocol and the length. -/
def pseudoHeader (ip : Ip) (len : JShort) : List JByte :=
  intBytes ip.src ++ intBytes ip.dst ++ [0, ip.p] ++ shortMemory len

theorem htons_byte : ∀ p : JByte, (htons (p.setWidth 16)).toNat = littleEndian 0 p := by
  decide

theorem inCksum2_eq (ip : Ip) (len : JShort) (data : List JByte) :
    inCksum2 ip len data = foldSum (wordSum littleEndian (pseudoHeader ip len ++ data)) := by
  have haddresses : Even (intBytes ip.src ++ intBytes ip.dst).length := show Even 8 by decide
  have hproto : Even [0, ip.p].length := show Even 2 by decide
  have hlen : Even (shortMemory len).length := show Even 2 by decide
  have hword : wordSum littleEndian (shortMemory len) = len.toNat := littleEndian_shortMemory len
  have hbyte : wordSum littleEndian [0, ip.p] = littleEndian 0 ip.p := rfl
  unfold inCksum2 pseudoHeader
  simp only [addWords_toNat, htons_byte, Nat.zero_add]
  rw [List.append_assoc, List.append_assoc, wordSum_append _ haddresses, wordSum_append _ hproto,
    wordSum_append _ hlen, hword, hbyte, Nat.add_assoc, Nat.add_assoc]

/-- A segment with its checksum, or with `0xffff` in place of a checksum of zero. -/
theorem verifies_segment (ip : Ip) (len : JShort) {pre post : List JByte}
    (heven : Even pre.length) (hlength : (pre ++ 0 :: 0 :: post).length ≤ 65524) {sum : JShort}
    (hsum : sum = inCksum2 ip len (pre ++ 0 :: 0 :: post) ∨
      inCksum2 ip len (pre ++ 0 :: 0 :: post) = 0 ∧ sum = 0xffff) :
    Verifies (pseudoHeader ip len ++ (pre ++ (shortMemory sum ++ post))) := by
  have hpseudo : (pseudoHeader ip len).length = 12 := rfl
  have heven' : Even (pseudoHeader ip len ++ pre).length := by
    rw [List.length_append, hpseudo, Nat.even_add]
    exact iff_of_true (by decide) heven
  have hlength' : (pseudoHeader ip len ++ pre ++ 0 :: 0 :: post).length ≤ 65536 := by
    rw [List.append_assoc, List.length_append, hpseudo]
    omega
  rw [inCksum2_eq, ← List.append_assoc] at hsum
  rw [← List.append_assoc]
  have hok := verifies_foldSum heven' hlength'
  rcases hsum with rfl | ⟨hzero, rfl⟩
  · exact hok
  · rw [hzero] at hok
    obtain ⟨-, hdvd⟩ := (verifies_insert_iff heven' _ _ post).mp hok
    refine (verifies_insert_iff heven' _ _ post).mpr ?_
    rw [littleEndian_shortMemory] at hdvd ⊢
    exact ⟨fun h => absurd (Nat.add_eq_zero_iff.mp h).2 (by decide),
      (Nat.dvd_add_right (by simpa using hdvd)).mpr (by decide)⟩

/-! ## ICMP -/

theorem high_byte (a next : JByte) :
    ((next ++ a : JShort) &&& 0xff00).toNat = 256 * next.toNat := by
  have hmask : (0xff00 : JShort) = (0xff : JByte) ++ (0 : JByte) := rfl
  have hhigh : next &&& 0xff = next := BitVec.and_allOnes
  have hlow : a &&& 0 = 0 := BitVec.and_zero
  rw [hmask, BitVec.and_append, hhigh, hlow, BitVec.toNat_append]
  simp [Nat.shiftLeft_eq, Nat.mul_comm]

theorem even_insert_iff {pre : List JByte} (h : Even pre.length) (post : List JByte) :
    Even (pre ++ 0 :: 0 :: post).length ↔ Even post.length := by
  rw [List.length_append, Nat.even_add, List.length_cons, List.length_cons, Nat.even_add_one,
    Nat.even_add_one, not_not]
  exact iff_true_left h

theorem verifies_inCksum_concat_iff {pre post : List JByte} (hpre : Even pre.length)
    (hpost : Even post.length) (a next : JByte)
    (hlength : (pre ++ 0 :: 0 :: post).length ≤ 65535) :
    Verifies (pre ++ (shortMemory (inCksum (pre ++ 0 :: 0 :: (post ++ [a])) next) ++
      (post ++ [a]))) ↔ a = 0 ∧ next = 0 := by
  have heven := (even_insert_iff hpre post).mpr hpost
  have hsplit : pre ++ 0 :: 0 :: (post ++ [a]) = (pre ++ 0 :: 0 :: post) ++ [a] := by simp
  have hsum : wordSum littleEndian (pre ++ 0 :: 0 :: (post ++ [a])) =
      wordSum littleEndian (pre ++ 0 :: 0 :: post) + a.toNat := by
    rw [hsplit, wordSum_append _ heven]
    rfl
  have hcksum : inCksum (pre ++ 0 :: 0 :: (post ++ [a])) next =
      foldSum (wordSum littleEndian (pre ++ 0 :: 0 :: post) + 256 * next.toNat) := by
    unfold inCksum
    rw [hsplit, addWords_append _ heven, addWords, high_byte, Nat.zero_add]
  have ha := a.isLt
  have hnext := next.isLt
  have hlt : wordSum littleEndian (pre ++ 0 :: 0 :: post) + 256 * next.toNat < 0x100000000 := by
    have hle := wordSum_little_le (pre ++ 0 :: 0 :: post)
    omega
  obtain ⟨hne, hdvd⟩ := dvd_add_complement hlt
  have hzero : a = 0 ∧ next = 0 ↔ a.toNat = 0 ∧ next.toNat = 0 :=
    and_congr BitVec.toNat_inj.symm BitVec.toNat_inj.symm
  refine (verifies_insert_iff hpre _ _ (post ++ [a])).trans ?_
  rw [hsum, hcksum, littleEndian_shortMemory, toNat_foldSum hlt, hzero]
  generalize 65535 - fold (fold _) = cksum at hne hdvd ⊢
  rw [Nat.add_right_comm] at hne hdvd ⊢
  refine ⟨fun h => ?_, fun h => ?_⟩
  · -- Both sums are all ones, and neither byte is as large as that.
    have hmod : a.toNat ≡ 256 * next.toNat [MOD 65535] :=
      Nat.ModEq.add_left_cancel' _ ((Nat.modEq_zero_iff_dvd.mpr h.2).trans
        (Nat.modEq_zero_iff_dvd.mpr hdvd).symm)
    have heq := hmod.eq_of_lt_of_lt (by omega) (by omega)
    omega
  · rw [h.1]
    rw [h.2] at hne hdvd
    exact ⟨hne, hdvd⟩

/-- Over an odd number of bytes `in_cksum` takes the next byte for the last one. -/
theorem verifies_inCksum_iff {pre post : List JByte} (hpre : Even pre.length)
    (hlength : (pre ++ 0 :: 0 :: post).length ≤ 65535) (next : JByte) :
    Verifies (pre ++ (shortMemory (inCksum (pre ++ 0 :: 0 :: post) next) ++ post)) ↔
      Even post.length ∨ post.getLast? = some 0 ∧ next = 0 := by
  by_cases hpost : Even post.length
  · unfold inCksum
    rw [addWords_even _ ((even_insert_iff hpre post).mpr hpost), Nat.zero_add]
    exact iff_of_true (verifies_foldSum hpre (Nat.le_succ_of_le hlength)) (Or.inl hpost)
  · rcases List.eq_nil_or_concat' post with rfl | ⟨post, a, rfl⟩
    · exact absurd Even.zero hpost
    · rw [or_iff_right hpost, List.getLast?_concat, Option.some_inj]
      rw [List.length_append, List.length_singleton, Nat.even_add_one, not_not] at hpost
      refine verifies_inCksum_concat_iff hpre hpost a next ?_
      simp only [List.length_append, List.length_cons] at hlength ⊢
      omega

end JSdnTrace.Jpcap
