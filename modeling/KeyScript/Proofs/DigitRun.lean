import KeyScript.Proofs.Grammar

/-!
Runs of digits have their exact value. A run is read by sums that are held to 64 bits, and is given
up as soon as one of them is too large; what it denotes is said with the number that all its digits
write, however many they are. So zeros in front never change a count, and a run that writes a larger
number never gets a smaller count, below the largest literal count or beyond it, within 64 bits or
not.
-/

namespace KeyScript

namespace Count

section

variable {run : List Char} (hrun : run ≠ []) (hdigits : ∀ digit ∈ run, digit.isDigit)
  (maxCount : UInt64)

include hrun hdigits

theorem ofRun_eq_ite :
    ofRun maxCount run =
      if Numeral.value run ≤ maxCount.toNat then .times (.ofNat (Numeral.value run))
      else .unbounded := by
  rw [ofRun_eq_written hdigits, written, if_neg hrun]

/-- The steps asked for are as many as the run writes, or as many as there can be. -/
theorem get_ofRun :
    (ofRun maxCount run).get =
      if Numeral.value run ≤ maxCount.toNat then Numeral.value run else maxWord := by
  rw [ofRun_eq_ite hrun hdigits]
  split
  · rename_i hle
    exact toNat_ofNat_of_le_maxWord (Nat.le_trans hle (toNat_le_maxWord maxCount))
  · rfl

theorem ofRun_zeros_append (zeros : Nat) :
    ofRun maxCount (List.replicate zeros '0' ++ run) = ofRun maxCount run := by
  have hne : List.replicate zeros '0' ++ run ≠ [] :=
    fun hnil => hrun (List.append_eq_nil_iff.mp hnil).2
  have hall : ∀ digit ∈ List.replicate zeros '0' ++ run, digit.isDigit := by
    intro digit hmem
    rcases List.mem_append.mp hmem with hzero | hmem
    · rw [List.eq_of_mem_replicate hzero]
      decide
    · exact hdigits digit hmem
  rw [ofRun_eq_ite hne hall, ofRun_eq_ite hrun hdigits, Numeral.value_zeros_append]

theorem min_value_le_get_ofRun :
    min (Numeral.value run) maxWord ≤ (ofRun maxCount run).get := by
  rw [get_ofRun hrun hdigits]
  split
  · exact Nat.min_le_left _ _
  · exact Nat.min_le_right _ _

theorem get_ofRun_le_get_ofRun {other : List Char} (hother : other ≠ [])
    (hmore : ∀ digit ∈ other, digit.isDigit) (hvalue : Numeral.value run ≤ Numeral.value other) :
    (ofRun maxCount run).get ≤ (ofRun maxCount other).get := by
  have hword := toNat_le_maxWord maxCount
  rw [get_ofRun hrun hdigits, get_ofRun hother hmore]
  split
  · -- Either run may be the one that the largest literal count stops.
    split <;> omega
  · have hlarger : ¬Numeral.value other ≤ maxCount.toNat := by omega
    exact Nat.le_of_eq (if_neg hlarger).symm

end

/-- A run of digits, of any length, denotes the number that it writes in decimal, as a literal if
this is at most the largest literal count, and no limit otherwise. Hence zeros in front of it change
nothing. And the number is never wrapped around: the count asks for at least as many steps as the
run writes, or for `maxWord` steps where the run writes more, and a run that writes a larger number
never asks for fewer. -/
theorem ofRun_denotes_value (maxCount : UInt64) {run : List Char} (hrun : run ≠ [])
    (hdigits : ∀ digit ∈ run, digit.isDigit) :
    (ofRun maxCount run =
      if Numeral.value run ≤ maxCount.toNat then .times (.ofNat (Numeral.value run))
      else .unbounded) ∧
    (ofRun maxCount run).get =
      (if Numeral.value run ≤ maxCount.toNat then Numeral.value run else maxWord) ∧
    (∀ zeros, ofRun maxCount (List.replicate zeros '0' ++ run) = ofRun maxCount run) ∧
    min (Numeral.value run) maxWord ≤ (ofRun maxCount run).get ∧
    ∀ other : List Char, other ≠ [] → (∀ digit ∈ other, digit.isDigit) →
      Numeral.value run ≤ Numeral.value other →
        (ofRun maxCount run).get ≤ (ofRun maxCount other).get := by
  refine ⟨ofRun_eq_ite hrun hdigits maxCount, get_ofRun hrun hdigits maxCount,
    ofRun_zeros_append hrun hdigits maxCount, min_value_le_get_ofRun hrun hdigits maxCount, ?_⟩
  intro other hother hmore hvalue
  exact get_ofRun_le_get_ofRun hrun hdigits maxCount hother hmore hvalue

/-- The largest number of 64 bits, with zeros in front of it so that it has more digits than the
next one, and a run whose sums would come back to one if they wrapped around. -/
theorem ofRun_denotes_value_beside_maxWord :
    let largest := "18446744073709551615".toList
    let wrapping := "18446744073709551617".toList
    largest ≠ [] ∧ (∀ digit ∈ largest, digit.isDigit) ∧
    ofRun 18446744073709551615 largest = .times 18446744073709551615 ∧
    ofRun 18446744073709551615 (List.replicate 3 '0' ++ largest) =
      ofRun 18446744073709551615 largest ∧
    wrapping ≠ [] ∧ (∀ digit ∈ wrapping, digit.isDigit) ∧
    ofRun 18446744073709551615 wrapping = .unbounded ∧
    Numeral.value largest ≤ Numeral.value wrapping ∧
    (ofRun 18446744073709551615 largest).get ≤ (ofRun 18446744073709551615 wrapping).get := by
  intro largest wrapping
  have hlargest : ∀ digit ∈ largest, digit.isDigit := by simp [largest]
  have hwrapping : ∀ digit ∈ wrapping, digit.isDigit := by simp [wrapping]
  have hvalue : Numeral.value largest ≤ Numeral.value wrapping := by decide +kernel
  obtain ⟨hliteral, -, hzeros, -, hmonotone⟩ :=
    @ofRun_denotes_value 18446744073709551615 largest (by simp [largest]) hlargest
  obtain ⟨hunbounded, -, -, -, -⟩ :=
    @ofRun_denotes_value 18446744073709551615 wrapping (by simp [wrapping]) hwrapping
  exact ⟨by simp [largest], hlargest, hliteral.trans (by decide +kernel), hzeros 3,
    by simp [wrapping], hwrapping, hunbounded.trans (by decide +kernel), hvalue,
    hmonotone wrapping (by simp [wrapping]) hwrapping hvalue⟩

end Count

end KeyScript
