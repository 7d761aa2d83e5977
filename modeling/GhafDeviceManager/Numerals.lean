import Mathlib.Tactic

/-!
# Numerals

The digits of a number in a base of at most sixteen determine it, and they are digits.
-/

namespace GhafDeviceManager

variable {b : ℕ}

theorem digitChar_injOn : Set.InjOn Nat.digitChar {d | d < 16} := by
  have hdigits : ∀ d < 16, ∀ e < 16, Nat.digitChar d = Nat.digitChar e → d = e := by decide
  intro d hd e he h
  exact hdigits d hd e he h

theorem mem_toDigits (hb : 1 < b) {n : ℕ} {c : Char} (hc : c ∈ Nat.toDigits b n) :
    ∃ d < b, c = Nat.digitChar d := by
  induction n using Nat.strong_induction_on with
  | _ n ih =>
      rw [Nat.toDigits_eq_if hb] at hc
      by_cases hn : n < b
      · rw [if_pos hn] at hc
        exact ⟨n, hn, List.mem_singleton.1 hc⟩
      · rw [if_neg hn] at hc
        rcases List.mem_append.1 hc with hinit | hlast
        · exact ih (n / b) (Nat.div_lt_self (by omega) hb) hinit
        · exact ⟨n % b, Nat.mod_lt n (by omega), List.mem_singleton.1 hlast⟩

theorem toDigits_injective (hb : 1 < b) (hb' : b ≤ 16) : Function.Injective (Nat.toDigits b) := by
  intro m n h
  induction m using Nat.strong_induction_on generalizing n with
  | _ m ih =>
      have hlong (k : ℕ) (d e : Char) : [d] ≠ Nat.toDigits b k ++ [e] := by
        intro heq
        have hlength := congrArg List.length heq
        have hpos := List.length_pos_of_ne_nil (Nat.toDigits_ne_nil (n := k) (b := b))
        rw [List.length_append, List.length_singleton, List.length_singleton] at hlength
        omega
      have hdigit {d e : ℕ} (hd : d < b) (he : e < b) (heq : d.digitChar = e.digitChar) : d = e :=
        digitChar_injOn (hd.trans_le hb') (he.trans_le hb') heq
      rw [Nat.toDigits_eq_if hb (n := m), Nat.toDigits_eq_if hb (n := n)] at h
      by_cases hm : m < b
      · by_cases hn : n < b
        · rw [if_pos hm, if_pos hn] at h
          exact hdigit hm hn (List.singleton_inj.1 h)
        · rw [if_pos hm, if_neg hn] at h
          exact absurd h (hlong _ _ _)
      · by_cases hn : n < b
        · rw [if_neg hm, if_pos hn] at h
          exact absurd h.symm (hlong _ _ _)
        · rw [if_neg hm, if_neg hn] at h
          obtain ⟨hinit, hlast⟩ := List.append_inj' h rfl
          have hquotient := ih (m / b) (Nat.div_lt_self (by omega) hb) hinit
          have hrest := hdigit (Nat.mod_lt m (by omega)) (Nat.mod_lt n (by omega))
            (List.singleton_inj.1 hlast)
          calc
            m = b * (m / b) + m % b := (Nat.div_add_mod m b).symm
            _ = b * (n / b) + n % b := by rw [hquotient, hrest]
            _ = n := Nat.div_add_mod n b

end GhafDeviceManager
