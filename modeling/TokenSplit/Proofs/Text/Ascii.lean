import TokenSplit.Text.Utf8

/-!
# Texts in ASCII

What is asked of a character of ASCII is settled by trying all of them.  In a text of such
characters every character is one octet, and its octets read back as the text.
-/

namespace TokenSplit.Text

theorem forall_ascii {p : Char → Prop} (hp : ∀ n < 128, p (Char.ofNat n))
    {c : Char} (hc : c.toNat < 128) : p c := by
  have hcode := hp c.toNat hc
  rw [Char.ofNat_toNat] at hcode
  exact hcode

/-- A character of ASCII is written by the octet that is its code. -/
theorem exists_octet_of_ascii {c : Char} (hc : c.toNat < 128) :
    ∃ octet : UInt8, String.utf8EncodeChar c = [octet] ∧ octet < 0x80 ∧
      Char.ofNat octet.toNat = c := by
  refine ⟨UInt8.ofNat c.toNat, ?_⟩
  exact forall_ascii (p := fun c =>
    String.utf8EncodeChar c = [UInt8.ofNat c.toNat] ∧
      UInt8.ofNat c.toNat < 0x80 ∧
      Char.ofNat (UInt8.ofNat c.toNat).toNat = c) (by decide +kernel) hc

theorem decodeUtf8From_encodeUtf8 (position : Nat) {s : List Char}
    (hs : ∀ c ∈ s, c.toNat < 128) :
    decodeUtf8From position (encodeUtf8 s) = .ok s := by
  induction s generalizing position with
  | nil => rfl
  | cons c s ih =>
      have hrest := ih (position + 1) fun d hd => hs d (List.mem_cons_of_mem c hd)
      obtain ⟨octet, hoctet, hsmall, hcode⟩ :=
        exists_octet_of_ascii (hs c List.mem_cons_self)
      have hcons : encodeUtf8 (c :: s) = octet :: encodeUtf8 s := by
        rw [encodeUtf8, List.flatMap_cons, hoctet]
        rfl
      rw [hcons, decodeUtf8From.eq_def]
      simp only [if_pos hsmall, hrest, hcode]
      rfl

/-- The octets of a text in ASCII read back as the text. -/
theorem decodeUtf8_encodeUtf8 {s : List Char}
    (hs : ∀ c ∈ s, c.toNat < 128) : decodeUtf8 (encodeUtf8 s) = .ok s :=
  decodeUtf8From_encodeUtf8 0 hs

end TokenSplit.Text
