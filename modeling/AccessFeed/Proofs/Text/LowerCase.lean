import AccessFeed.Text.LowerCase

/-! Lower-casing of texts over the ASCII characters, and twice in a row. A character outside of
them becomes one of them in two cases only: the capital I with a dot above begins with an `i`, and
the KELVIN SIGN becomes a `k`. -/
namespace AccessFeed
namespace Text

/-- A capital letter of ASCII. -/
def IsCapital (char : Char) : Prop := 0x41 ≤ char.toNat ∧ char.toNat ≤ 0x5a

/-- A character of ASCII that is no capital letter. -/
def IsSmall (char : Char) : Prop := char.toNat < 128 ∧ ¬ IsCapital char

instance (char : Char) : Decidable (IsCapital char) := inferInstanceAs (Decidable (_ ∧ _))
instance (char : Char) : Decidable (IsSmall char) := inferInstanceAs (Decidable (_ ∧ _))

/-- The capital letters and the KELVIN SIGN apart, the runs lie outside of ASCII and lead to
characters outside of it. -/
theorem lowerCaseRuns_cases : ∀ run ∈ lowerCaseRuns,
    run = (0x41, 0x5a, 1, 32) ∨ run = (0x212a, 0x212a, 1, -8383) ∨
      128 ≤ run.1 ∧ 128 ≤ run.1 + run.2.2.2 ∧
        (run.2.1 + run.2.2.2 < 0xd800 ∨
          0xdfff < run.1 + run.2.2.2 ∧ run.2.1 + run.2.2.2 < 0x110000) := by
  decide +kernel

theorem toNat_ofNat {number : Nat} (valid : number.isValidChar) :
    (Char.ofNat number).toNat = number := by
  rw [Char.ofNat, dif_pos valid]
  rfl

/-- What the lower-case form of a single character can be. -/
inductive Form (char : Char) : List Char → Prop where
  | own (small : ¬ IsCapital char) : Form char [char]
  | letter (capital : IsCapital char) : Form char [Char.ofNat (char.toNat + 32)]
  | kelvin (high : 128 ≤ char.toNat) : Form char ['k']
  | dotted (high : 128 ≤ char.toNat) : Form char ['i', Char.ofNat 0x307]
  | foreign {lowered : Char} (high : 128 ≤ char.toNat) (stays : 128 ≤ lowered.toNat) :
    Form char [lowered]

variable {char lowered : Char} {before text target : List Char}

theorem form_lowerChar (char : Char) : Form char (lowerChar char) := by
  unfold lowerChar
  split
  case isTrue dot => exact .dotted (by omega)
  case isFalse =>
    split
    case h_1 first last step offset found =>
      have inside := List.find?_some found
      simp only [Bool.and_eq_true, decide_eq_true_eq] at inside
      obtain same | same | ⟨high, lifted, valid⟩ :=
        lowerCaseRuns_cases _ (List.mem_of_find?_eq_some found)
      · cases same
        exact .letter inside.1
      · cases same
        have sign : char.toNat = 0x212a := by omega
        have kelvin : Form char ['k'] := .kelvin (by omega)
        rwa [sign]
      · simp only at high lifted valid
        refine .foreign (by omega) ?_
        rw [toNat_ofNat (by simp only [Nat.isValidChar]; omega)]
        omega
    case h_2 missing =>
      refine .own fun capital => ?_
      have outside := List.find?_eq_none.mp missing (0x41, 0x5a, 1, 32) (by decide)
      simp only [IsCapital, Bool.and_eq_true, decide_eq_true_eq] at outside capital
      omega

theorem lowerChar_of_isSmall (small : IsSmall char) : lowerChar char = [char] := by
  have form := form_lowerChar char
  generalize lowerChar char = lowered at form
  have ascii := small.1
  cases form with
  | own => rfl
  | letter capital => exact absurd capital small.2
  | kelvin | dotted | foreign => omega

/-- A text of small characters stays as it is, whatever stands before it. -/
theorem lowerChars_of_isSmall (small : ∀ char ∈ text, IsSmall char) :
    lowerChars before text = text := by
  induction text generalizing before with
  | nil => rfl
  | cons char rest ih =>
    have head : IsSmall char := small char (by simp)
    have noSigma : char.toNat ≠ 0x3a3 := by
      have := head.1
      omega
    rw [lowerChars, if_neg noSigma, lowerChar_of_isSmall head,
      ih fun other member => small other (by simp [member]), List.singleton_append]

@[simp] theorem toList_lowerCase (text : String) :
    (lowerCase text).toList = lowerChars [] text.toList := String.toList_ofList

theorem lowerCase_of_isSmall {text : String} (small : ∀ char ∈ text.toList, IsSmall char) :
    lowerCase text = text := by
  rw [lowerCase, lowerChars_of_isSmall small, String.ofList_toList]

theorem lowerChar_ne_nil (char : Char) : lowerChar char ≠ [] := by
  have form := form_lowerChar char
  generalize lowerChar char = lowered at form
  cases form <;> exact List.cons_ne_nil _ _

theorem lowerChars_eq_nil (empty : lowerChars before text = []) : text = [] := by
  cases text with
  | nil => rfl
  | cons char rest =>
    rw [lowerChars, List.append_eq_nil_iff] at empty
    have first := empty.1
    split at first
    case isTrue => exact absurd first (List.cons_ne_nil _ _)
    case isFalse => exact absurd first (lowerChar_ne_nil char)

/-- A character of a lower-cased text comes from the form of a single one, or is a small sigma. -/
theorem exists_of_mem_lowerChars (member : lowered ∈ lowerChars before text) :
    (∃ char ∈ text, lowered ∈ lowerChar char) ∨
      (∃ char ∈ text, char.toNat = 0x3a3) ∧ 128 ≤ lowered.toNat := by
  induction text generalizing before with
  | nil => simp [lowerChars] at member
  | cons char rest ih =>
    rw [lowerChars, List.mem_append] at member
    obtain here | later := member
    · split at here
      case isTrue sigma =>
        rw [List.mem_singleton] at here
        subst here
        exact .inr ⟨⟨char, by simp, sigma⟩, by split <;> decide⟩
      case isFalse => exact .inl ⟨char, by simp, here⟩
    · obtain ⟨other, present, single⟩ | ⟨⟨other, present, sigma⟩, high⟩ := ih later
      · exact .inl ⟨other, by simp [present], single⟩
      · exact .inr ⟨⟨other, by simp [present], sigma⟩, high⟩

/-- No capital letter of ASCII is left in a lower-cased text. -/
theorem not_isCapital_of_mem_lowerChars (member : lowered ∈ lowerChars before text) :
    ¬ IsCapital lowered := by
  obtain ⟨char, -, single⟩ | ⟨-, high⟩ := exists_of_mem_lowerChars member
  · have form := form_lowerChar char
    generalize lowerChar char = forms at form single
    cases form with
    | own small => rwa [List.mem_singleton.mp single]
    | letter capital =>
      -- The small letters follow the capital ones at a distance of 32.
      simp only [IsCapital] at capital
      rw [List.mem_singleton.mp single, IsCapital,
        toNat_ofNat (by simp only [Nat.isValidChar]; omega)]
      omega
    | kelvin =>
      rw [List.mem_singleton.mp single]
      decide
    | dotted =>
      simp only [List.mem_cons, List.not_mem_nil, or_false] at single
      obtain rfl | rfl := single <;> decide
    | foreign _ stays =>
      rw [List.mem_singleton.mp single]
      exact fun capital => absurd capital.2 (by omega)
  · exact fun capital => absurd capital.2 (by omega)

/-- A text without capital letters of ASCII whose lower case is over ASCII and has no `k` is that
text already. -/
theorem eq_of_lowerChars_eq (plain : ∀ char ∈ text, ¬ IsCapital char)
    (ascii : ∀ char ∈ target, char.toNat < 128 ∧ char ≠ 'k')
    (same : lowerChars before text = target) : text = target := by
  induction text generalizing before target with
  | nil => exact same
  | cons char rest ih =>
    rw [lowerChars] at same
    subst same
    have noSigma : char.toNat ≠ 0x3a3 := by
      intro sigma
      rw [if_pos sigma] at ascii
      have low := (ascii _ (List.mem_append_left _ (List.mem_singleton_self _))).1
      revert low
      split <;> decide
    rw [if_neg noSigma] at ascii ⊢
    have single : lowerChar char = [char] := by
      have form := form_lowerChar char
      generalize lowerChar char = lowered at form ascii
      cases form with
      | own => rfl
      | letter capital => exact absurd capital (plain char (by simp))
      | kelvin => exact absurd rfl (ascii 'k' (by simp)).2
      | dotted => exact absurd (ascii (Char.ofNat 0x307) (by simp)).1 (by decide)
      | @foreign lowered _ stays => exact absurd (ascii lowered (by simp)).1 (by omega)
    rw [single] at ascii ⊢
    have tail := ih (fun other member => plain other (by simp [member]))
      (fun other member => ascii other (List.mem_append_right _ member)) rfl
    rw [List.singleton_append, ← tail]

theorem eq_of_lowerCase_eq {text target : String}
    (plain : ∀ char ∈ text.toList, ¬ IsCapital char)
    (ascii : ∀ char ∈ target.toList, char.toNat < 128 ∧ char ≠ 'k')
    (same : lowerCase text = target) : text = target := by
  rw [← String.toList_inj, toList_lowerCase] at same
  exact String.toList_inj.mp (eq_of_lowerChars_eq plain ascii same)

/-- Lower-casing a second time gives no text of small characters without a `k` that the first time
did not give. -/
theorem lowerCase_lowerCase_eq_iff {text target : String}
    (small : ∀ char ∈ target.toList, IsSmall char ∧ char ≠ 'k') :
    lowerCase (lowerCase text) = target ↔ lowerCase text = target := by
  constructor
  · intro same
    refine eq_of_lowerCase_eq (fun char member => ?_)
      (fun char member => ⟨(small char member).1.1, (small char member).2⟩) same
    rw [toList_lowerCase] at member
    exact not_isCapital_of_mem_lowerChars member
  · intro same
    rw [same]
    exact lowerCase_of_isSmall fun char member => (small char member).1

end Text
end AccessFeed
