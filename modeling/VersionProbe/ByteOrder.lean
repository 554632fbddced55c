/-
# The order of texts

Texts are ordered byte by byte, as words are in a dictionary.

* `bytesLe_total`, `bytesLe_trans` : the order is total;
* `eq_of_bytesLe_of_bytesLe` : and no two lists of bytes are tied.
-/

namespace VersionProbe

/-! ## Bytes -/

/-- The bytes of a text. -/
def utf8 (s : String) : List UInt8 :=
  s.toUTF8.data.toList

/-- Whether a list of bytes comes before another or is the same, as words do in a dictionary. -/
def bytesLe : List UInt8 → List UInt8 → Bool
  | [], _ => true
  | _ :: _, [] => false
  | a :: as, b :: bs =>
    if a.toNat < b.toNat then true
    else if b.toNat < a.toNat then false
    else bytesLe as bs

/-- Of two lists of bytes one comes before the other. -/
theorem bytesLe_total (a b : List UInt8) : bytesLe a b = true ∨ bytesLe b a = true := by
  induction a generalizing b with
  | nil => exact Or.inl rfl
  | cons x a ih =>
    cases b with
    | nil => exact Or.inr rfl
    | cons y b =>
      simp only [bytesLe]
      rcases Nat.lt_trichotomy x.toNat y.toNat with h | h | h
      · simp [h]
      · simp [h, ih b]
      · simp [h]

/-- The order of lists of bytes is transitive. -/
theorem bytesLe_trans {a b c : List UInt8} (hab : bytesLe a b = true) (hbc : bytesLe b c = true) :
    bytesLe a c = true := by
  induction a generalizing b c with
  | nil => rfl
  | cons x a ih =>
    cases b with
    | nil => simp [bytesLe] at hab
    | cons y b =>
      cases c with
      | nil => simp [bytesLe] at hbc
      | cons z c =>
        simp only [bytesLe] at hab hbc ⊢
        by_cases hxz : x.toNat < z.toNat
        · simp [hxz]
        · by_cases hxy : x.toNat < y.toNat
          · have hzy : z.toNat < y.toNat := by omega
            have hyz : ¬ y.toNat < z.toNat := by omega
            simp [hzy, hyz] at hbc
          · by_cases hyx : y.toNat < x.toNat
            · simp [hxy, hyx] at hab
            · by_cases hyz : y.toNat < z.toNat
              · omega
              · by_cases hzy : z.toNat < y.toNat
                · simp [hyz, hzy] at hbc
                · have hzx : ¬ z.toNat < x.toNat := by omega
                  simp only [hxy, hyx, hyz, hzy, hxz, hzx, if_false] at hab hbc ⊢
                  exact ih hab hbc

/-- No two lists of bytes are tied. -/
theorem eq_of_bytesLe_of_bytesLe {a b : List UInt8} (hab : bytesLe a b = true)
    (hba : bytesLe b a = true) : a = b := by
  induction a generalizing b with
  | nil =>
    cases b with
    | nil => rfl
    | cons y b => simp [bytesLe] at hba
  | cons x a ih =>
    cases b with
    | nil => simp [bytesLe] at hab
    | cons y b =>
      simp only [bytesLe] at hab hba
      rcases Nat.lt_trichotomy x.toNat y.toNat with h | h | h
      · have hn : ¬ y.toNat < x.toNat := by omega
        simp [h, hn] at hba
      · simp only [h, Nat.lt_irrefl, if_false] at hab hba
        rw [ih hab hba, UInt8.toNat_inj.1 h]
      · have hn : ¬ x.toNat < y.toNat := by omega
        simp [h, hn] at hab

end VersionProbe
