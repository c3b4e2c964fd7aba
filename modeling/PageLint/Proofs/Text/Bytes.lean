import PageLint.Proofs.Text.Ascii
import PageLint.Proofs.Text.Offsets

/-! # The bytes of a text

A text is stored as its UTF-8 bytes. A byte below 128 is a character of its own, and the characters
of more than one byte have no such byte among theirs. So a reader of bytes that looks for ASCII
characters finds those of the text. -/

namespace PageLint.Text

/-- The UTF-8 bytes of a text. -/
def bytes (t : Text) : List UInt8 := t.flatMap String.utf8EncodeChar

/-- The text that some bytes stand for, if they are valid. -/
def ofBytes? (bytes : List UInt8) : Option Text :=
  (String.fromUTF8? bytes.toByteArray).map (·.toList)

variable {t a b : Text} {c d : Char}

@[simp] theorem bytes_nil : bytes [] = [] := rfl

@[simp] theorem bytes_cons (c : Char) (t : Text) :
    bytes (c :: t) = String.utf8EncodeChar c ++ bytes t := List.flatMap_cons

@[simp] theorem bytes_append (a b : Text) : bytes (a ++ b) = bytes a ++ bytes b :=
  List.flatMap_append

@[simp] theorem length_bytes (t : Text) : (bytes t).length = t.size := by
  induction t with
  | nil => rfl
  | cons c t ih => rw [bytes_cons, List.length_append, String.length_utf8EncodeChar, ih, size_cons]

/-- The bytes of a text are valid, and they stand for it. -/
theorem ofBytes?_bytes (t : Text) : ofBytes? (bytes t) = some t := by
  have hbytes : (bytes t).toByteArray = (String.ofList t).toByteArray :=
    String.toByteArray_ofList.symm
  have hvalid : (bytes t).toByteArray.IsValidUTF8 := ⟨t, rfl⟩
  rw [ofBytes?, String.fromUTF8?, dif_pos hvalid, Option.map_some]
  have hsame : String.fromUTF8 (bytes t).toByteArray hvalid = String.ofList t :=
    String.toByteArray_inj.mp hbytes
  rw [hsame, String.toList_ofList]

theorem bytes_inj : bytes a = bytes b ↔ a = b := by
  refine ⟨fun h => ?_, fun h => h ▸ rfl⟩
  have hsame := ofBytes?_bytes a
  rw [h, ofBytes?_bytes] at hsame
  exact (Option.some.inj hsame).symm

/-! ## ASCII -/

theorem utf8EncodeChar_of_ascii (h : c.toNat < 128) : String.utf8EncodeChar c = [c.toUInt8] :=
  forall_ascii (P := fun c => String.utf8EncodeChar c = [c.toUInt8]) (by decide) h

theorem utf8Size_of_ascii (h : c.toNat < 128) : c.utf8Size = 1 := by
  rw [← String.length_utf8EncodeChar, utf8EncodeChar_of_ascii h]
  rfl

theorem toNat_toUInt8 (h : c.toNat < 128) : c.toUInt8.toNat = c.toNat := by
  have hmod : c.toUInt8.toNat = c.toNat % 256 := rfl
  rw [hmod, Nat.mod_eq_of_lt (by omega)]

theorem le_of_mem_utf8EncodeChar (h : 128 ≤ c.toNat) :
    ∀ x ∈ String.utf8EncodeChar c, 128 ≤ x.toNat := by
  have hlow : ∀ n m : Nat, n < 64 → 128 ≤ m → m ≤ 192 → 128 ≤ (UInt8.ofNat (n + m)).toNat := by
    intro n m hn hm hm'
    rw [UInt8.toNat_ofNat', Nat.mod_eq_of_lt (by omega)]
    omega
  have hhigh : ∀ n m : Nat, n < 16 → 192 ≤ m → m ≤ 240 → 128 ≤ (UInt8.ofNat (n + m)).toNat := by
    intro n m hn hm hm'
    rw [UInt8.toNat_ofNat', Nat.mod_eq_of_lt (by omega)]
    omega
  have hbig : ¬ c.val.toNat ≤ 127 := by
    change ¬ c.toNat ≤ 127
    omega
  have hmod := fun n : Nat => Nat.mod_lt n (show 0 < 64 by decide)
  intro x hx
  simp only [String.utf8EncodeChar, if_neg hbig] at hx
  split at hx
  · simp only [List.mem_cons, List.not_mem_nil, or_false] at hx
    obtain rfl | rfl := hx
    · exact hlow _ _ (by omega) (by omega) (by omega)
    · exact hlow _ _ (hmod _) (by omega) (by omega)
  · split at hx
    · simp only [List.mem_cons, List.not_mem_nil, or_false] at hx
      obtain rfl | rfl | rfl := hx
      · exact hhigh _ _ (by omega) (by omega) (by omega)
      · exact hlow _ _ (hmod _) (by omega) (by omega)
      · exact hlow _ _ (hmod _) (by omega) (by omega)
    · simp only [List.mem_cons, List.not_mem_nil, or_false] at hx
      obtain rfl | rfl | rfl | rfl := hx
      · exact hhigh _ _ (by omega) (by omega) (by omega)
      · exact hlow _ _ (hmod _) (by omega) (by omega)
      · exact hlow _ _ (hmod _) (by omega) (by omega)
      · exact hlow _ _ (hmod _) (by omega) (by omega)

/-- An ASCII character shares its byte with no other character. -/
theorem mem_utf8EncodeChar_iff (hd : d.toNat < 128) :
    d.toUInt8 ∈ String.utf8EncodeChar c ↔ c = d := by
  constructor
  · intro h
    by_cases hc : c.toNat < 128
    · rw [utf8EncodeChar_of_ascii hc, List.mem_singleton] at h
      have hnat := congrArg UInt8.toNat h
      rw [toNat_toUInt8 hc, toNat_toUInt8 hd] at hnat
      exact (Char.toNat_inj.mp hnat).symm
    · have hle := le_of_mem_utf8EncodeChar (Nat.not_lt.mp hc) _ h
      rw [toNat_toUInt8 hd] at hle
      omega
  · rintro rfl
    rw [utf8EncodeChar_of_ascii hd]
    exact List.mem_singleton_self _

theorem toUInt8_inj (hc : c.toNat < 128) (hd : d.toNat < 128) : c.toUInt8 = d.toUInt8 ↔ c = d := by
  have hmem := mem_utf8EncodeChar_iff (c := c) hd
  rwa [utf8EncodeChar_of_ascii hc, List.mem_singleton, eq_comm] at hmem

/-- No ASCII character has a byte from 128 on. -/
theorem ne_toUInt8_of_le {b : UInt8} (hb : 128 ≤ b.toNat) (hd : d.toNat < 128) : b ≠ d.toUInt8 := by
  rintro rfl
  rw [toNat_toUInt8 hd] at hb
  omega

/-- The first byte of a text is that of an ASCII character if and only if its first character is
that one. -/
theorem head?_bytes_eq_some_iff (hd : d.toNat < 128) :
    (bytes t).head? = some d.toUInt8 ↔ t.head? = some d := by
  cases t with
  | nil => simp
  | cons c t =>
      obtain ⟨x, xs, hx⟩ := List.exists_cons_of_ne_nil (String.utf8EncodeChar_ne_nil (c := c))
      rw [bytes_cons, hx, List.cons_append, List.head?_cons, List.head?_cons, Option.some_inj,
        Option.some_inj, ← mem_utf8EncodeChar_iff hd]
      constructor
      · rintro rfl
        rw [hx]
        exact List.mem_cons_self
      · intro h
        obtain rfl := (mem_utf8EncodeChar_iff hd).mp h
        rw [utf8EncodeChar_of_ascii hd] at hx
        exact (List.cons.inj hx).1.symm

/-- And its last byte is that of an ASCII character if and only if its last character is. -/
theorem getLast?_bytes_eq_some_iff (hd : d.toNat < 128) :
    (bytes t).getLast? = some d.toUInt8 ↔ t.getLast? = some d := by
  rcases List.eq_nil_or_concat t with rfl | ⟨front, c, rfl⟩
  · simp
  · obtain ⟨xs, x, hx⟩ :=
      (List.eq_nil_or_concat (String.utf8EncodeChar c)).resolve_left String.utf8EncodeChar_ne_nil
    rw [List.concat_eq_append] at hx
    rw [List.concat_eq_append, bytes_append, bytes_cons, bytes_nil, List.append_nil, hx,
      ← List.append_assoc, List.getLast?_concat, List.getLast?_concat, Option.some_inj,
      Option.some_inj, ← mem_utf8EncodeChar_iff hd]
    constructor
    · rintro rfl
      rw [hx]
      exact List.mem_concat_self
    · intro h
      obtain rfl := (mem_utf8EncodeChar_iff hd).mp h
      rw [utf8EncodeChar_of_ascii hd, ← List.nil_append [c.toUInt8]] at hx
      exact (List.append_inj' hx rfl).2 |> List.singleton_inj.mp |>.symm

/-! ## Offsets -/

/-- The byte in front of a place, if there is one. -/
theorem getElem?_before (front back : List UInt8) :
    (if front.length = 0 then none else (front ++ back)[front.length - 1]?) = front.getLast? := by
  rcases List.eq_nil_or_concat front with rfl | ⟨front, x, rfl⟩
  · rfl
  · simp

theorem getElem?_bytes_append (a b : Text) (k : Nat) :
    (bytes (a ++ b))[a.size + k]? = (bytes b)[k]? := by
  rw [bytes_append, ← length_bytes a, List.getElem?_append_right (Nat.le_add_right _ _),
    Nat.add_sub_cancel_left]

/-- A byte of an ASCII character is all of a character. -/
theorem getElem?_bytes_eq_some_iff {n : Nat} (hd : d.toNat < 128) :
    (bytes t)[n]? = some d.toUInt8 ↔ ∃ front back, t = front ++ d :: back ∧ front.size = n := by
  constructor
  · intro h
    induction t generalizing n with
    | nil => simp at h
    | cons c t ih =>
        rw [bytes_cons] at h
        by_cases hn : n < c.utf8Size
        · rw [List.getElem?_append_left (by rwa [String.length_utf8EncodeChar])] at h
          obtain rfl := (mem_utf8EncodeChar_iff hd).mp (List.mem_of_getElem? h)
          have hzero : n = 0 := by
            rw [utf8Size_of_ascii hd] at hn
            omega
          exact ⟨[], t, rfl, hzero.symm⟩
        · rw [List.getElem?_append_right (by rw [String.length_utf8EncodeChar]; omega),
            String.length_utf8EncodeChar] at h
          obtain ⟨front, back, rfl, hsize⟩ := ih h
          refine ⟨c :: front, back, rfl, ?_⟩
          rw [size_cons]
          omega
  · rintro ⟨front, back, rfl, rfl⟩
    have hat := getElem?_bytes_append front (d :: back) 0
    rw [Nat.add_zero] at hat
    rw [hat, bytes_cons, utf8EncodeChar_of_ascii hd]
    rfl

end PageLint.Text
