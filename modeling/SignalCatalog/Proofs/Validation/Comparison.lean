import SignalCatalog.Proofs.Validation.Validity

/-!
# Versions are compared as exact decimals

A decimal is said here by its form, as a run of digits or as two runs with a point between them, and so
is the number that it denotes. Neither mentions how a version is read or stored. What is read are exactly
the decimals, two versions are in the order of the numbers they denote and equal exactly if these are,
and a regression is reported exactly if the number of the version is below that of the baseline. Nothing
depends on the number of digits.
-/

namespace SignalCatalog.Version

open Text (valueOf)

/-- The decimals, each with the number that it denotes. -/
inductive Denotes : List Char → ℚ → Prop
  | whole {run : List Char} (hrun : run ≠ []) (hdigits : ∀ c ∈ run, c.isDigit = true) :
    Denotes run (valueOf run)
  | pointed {whole fraction : List Char} (hwhole : ∀ c ∈ whole, c.isDigit = true)
    (hfraction : fraction ≠ []) (hdigits : ∀ c ∈ fraction, c.isDigit = true) :
    Denotes (whole ++ '.' :: fraction) (valueOf (whole ++ fraction) / 10 ^ fraction.length)

variable {text first second : String} {p q : ℚ}

/-! ## What is read -/

theorem point_notMem {run : List Char} (h : ∀ c ∈ run, c.isDigit = true) : '.' ∉ run := by
  intro hpoint
  have hdigit := h '.' hpoint
  simp at hdigit

theorem parts?_whole {run : List Char} (hrun : run ≠ []) (hdigits : ∀ c ∈ run, c.isDigit = true) :
    parts? run = some (run, []) := by
  have hcut : Text.cutAt? '.' run = none := by
    rw [Option.eq_none_iff_forall_ne_some]
    intro parts hparts
    have htext := (Text.cutAt?_eq_some_iff.mp hparts).1
    exact point_notMem hdigits (htext ▸ by simp)
  simp [parts?, hcut, hrun, List.all_eq_true.mpr hdigits]

theorem parts?_pointed {whole fraction : List Char} (hwhole : ∀ c ∈ whole, c.isDigit = true)
    (hfraction : fraction ≠ []) (hdigits : ∀ c ∈ fraction, c.isDigit = true) :
    parts? (whole ++ '.' :: fraction) = some (whole, fraction) := by
  have hcut : Text.cutAt? '.' (whole ++ '.' :: fraction) = some (whole, fraction) :=
    Text.cutAt?_eq_some_iff.mpr ⟨rfl, point_notMem hwhole⟩
  simp [parts?, hcut, hfraction, List.all_eq_true.mpr hwhole, List.all_eq_true.mpr hdigits]

/-- A decimal by its parts is the whole number of all its digits with the point moved back. -/
theorem decimal_eq (whole fraction : List Char) :
    decimal whole fraction = valueOf (whole ++ fraction) / 10 ^ fraction.length := by
  have hpower : (10 : ℚ) ^ fraction.length ≠ 0 := by positivity
  have hvalue : (valueOf (whole ++ fraction) : ℚ) =
      (valueOf whole + fractionOf fraction) * 10 ^ fraction.length := by
    rw [valueOf, List.foldl_append, foldl_digits_eq, ← valueOf]
  rw [decimal, hvalue, mul_div_cancel_right₀ _ hpower]

/-- The number of a text is the one that its trimmed form denotes. -/
theorem denotes_iff : Denotes (Text.trim text.toList) p ↔ number? text = some p := by
  constructor
  · intro h
    unfold number?
    generalize Text.trim text.toList = chars at h
    cases h with
    | whole hrun hdigits => simp [parts?_whole hrun hdigits, decimal]
    | pointed hwhole hfraction hdigits =>
      simp [parts?_pointed hwhole hfraction hdigits, decimal_eq]
  · intro h
    obtain ⟨⟨whole, fraction⟩, hparts, rfl⟩ := Option.map_eq_some_iff.mp h
    obtain ⟨hwhole, hdigits⟩ := isDigit_of_parts? hparts
    unfold parts? at hparts
    split at hparts
    · obtain ⟨hform, hpair⟩ := Option.ite_none_left_eq_some.mp hparts
      obtain ⟨rfl, rfl⟩ := Prod.mk.inj (Option.some.inj hpair)
      have hrun : Text.trim text.toList ≠ [] := fun hnil => hform (by simp [hnil])
      simpa [decimal] using Denotes.whole hrun hwhole
    · rename_i cutWhole cutFraction hcut
      obtain ⟨hform, hpair⟩ := Option.ite_none_left_eq_some.mp hparts
      obtain ⟨rfl, rfl⟩ := Prod.mk.inj (Option.some.inj hpair)
      have hfraction : cutFraction ≠ [] := fun hnil => hform (by simp [hnil])
      rw [(Text.cutAt?_eq_some_iff.mp hcut).1]
      simpa [decimal_eq] using Denotes.pointed hwhole hfraction hdigits

/-- A text is read as a version exactly if it is a decimal. -/
theorem isSome_ofText?_iff (text : String) :
    (ofText? text).isSome = true ↔ ∃ number, Denotes (Text.trim text.toList) number := by
  simp only [denotes_iff, ← Option.isSome_iff_exists]
  rw [← not_iff_not]
  simp [ofText?_eq_none_iff]

/-! ## The order -/

variable {a b : Version}

/-- Of two different versions one is below the other. -/
theorem eq_of_not_below (hab : a.below b = false) (hba : b.below a = false) : a = b := by
  obtain ⟨aWhole, aFraction⟩ := a
  obtain ⟨bWhole, bFraction⟩ := b
  simp only [below, Bool.or_eq_false_iff, Bool.and_eq_false_imp, decide_eq_false_iff_not,
    beq_iff_eq] at hab hba
  have hlength : aWhole.length = bWhole.length := by omega
  obtain ⟨hab, habFraction⟩ := hab.2 hlength
  obtain ⟨hba, hbaFraction⟩ := hba.2 hlength.symm
  have hwhole : aWhole = bWhole := eq_of_not_wordBefore hab hba
  rw [hwhole, eq_of_not_wordBefore (habFraction hwhole) (hbaFraction hwhole.symm)]

theorem eq_iff_value_eq (ha : a.Canonical) (hb : b.Canonical) : a = b ↔ a.value = b.value := by
  refine ⟨fun h => by rw [h], fun h => eq_of_not_below ?_ ?_⟩
  · rw [Bool.eq_false_iff, ne_eq, below_iff ha hb, h]
    exact lt_irrefl _
  · rw [Bool.eq_false_iff, ne_eq, below_iff hb ha, h]
    exact lt_irrefl _

/-- Two versions that are read stand to each other as the numbers that their texts denote. -/
theorem compare_read (ha : ofText? first = some a) (hb : ofText? second = some b)
    (hp : Denotes (Text.trim first.toList) p) (hq : Denotes (Text.trim second.toList) q) :
    (a.below b = true ↔ p < q) ∧ (a = b ↔ p = q) := by
  obtain ⟨hacanonical, hanumber⟩ := of_ofText? ha
  obtain ⟨hbcanonical, hbnumber⟩ := of_ofText? hb
  rw [denotes_iff, hanumber, Option.some.injEq] at hp
  rw [denotes_iff, hbnumber, Option.some.injEq] at hq
  subst hp hq
  exact ⟨below_iff hacanonical hbcanonical, eq_iff_value_eq hacanonical hbcanonical⟩

/-- A regression is reported exactly of a decimal below a baseline that is a decimal too. -/
theorem regression_mem_iff {metadata : Metadata} {baseline : Option String} :
    .versionRegression ∈ (metadata.versionIssues baseline).map Issue.code ↔
      ∃ stored p q, baseline = some stored ∧ Denotes (Text.trim metadata.version.toList) p ∧
        Denotes (Text.trim stored.toList) q ∧ p < q := by
  simp only [denotes_iff, Metadata.codes_versionIssues]
  constructor
  · intro h
    split at h
    · simp at h
    · rename_i number stored hnumber hstored
      obtain ⟨text, hbaseline, htext⟩ := Option.bind_eq_some_iff.mp hstored
      exact ⟨text, number, stored, hbaseline, hnumber, htext, (List.mem_ite_nil_right.mp h).1⟩
    · simp at h
  · rintro ⟨text, number, stored, rfl, hnumber, hstored, hless⟩
    simp [hnumber, hstored, hless]

/-- A text is read as a version exactly if it is a decimal after trimming: digits, or digits that may be
missing, a point and digits. Any two versions that are read are in the order of the rational numbers that
their texts denote, and they are equal exactly if these are. A regression is reported exactly if the
version and the baseline both are decimals and the number of the version is the smaller one. -/
theorem comparison_exact :
    (∀ text, (ofText? text).isSome = true ↔ ∃ number, Denotes (Text.trim text.toList) number) ∧
    (∀ first second a b p q, ofText? first = some a → ofText? second = some b →
      Denotes (Text.trim first.toList) p → Denotes (Text.trim second.toList) q →
      (a.below b = true ↔ p < q) ∧ (a = b ↔ p = q)) ∧
    ∀ (metadata : Metadata) (baseline : Option String),
      .versionRegression ∈ (metadata.versionIssues baseline).map Issue.code ↔
        ∃ stored p q, baseline = some stored ∧ Denotes (Text.trim metadata.version.toList) p ∧
          Denotes (Text.trim stored.toList) q ∧ p < q :=
  ⟨isSome_ofText?_iff, fun _ _ _ _ _ _ => compare_read, fun _ _ => regression_mem_iff⟩

/-- Zeros in front and behind do not count, and a digit more behind the point makes no larger number. -/
theorem comparison_exact_zeros :
    ∃ a b c, ofText? "1.10" = some a ∧ ofText? " 001.1 " = some b ∧ ofText? "1.9" = some c ∧
      a = b ∧ a.below c = true ∧
      .versionRegression ∈
        (Metadata.versionIssues { Metadata.new .epoch with version := "1.10" } (some "1.9")).map
          Issue.code := by
  obtain ⟨_, hcompare, hreported⟩ := comparison_exact
  have hlonger : Denotes (Text.trim "1.10".toList) (110 / 10 ^ 2) :=
    @Denotes.pointed ['1'] ['1', '0'] (by simp) (by decide) (by simp)
  have hzeros : Denotes (Text.trim " 001.1 ".toList) (11 / 10 ^ 1) :=
    @Denotes.pointed ['0', '0', '1'] ['1'] (by simp) (by decide) (by simp)
  have hlarger : Denotes (Text.trim "1.9".toList) (19 / 10 ^ 1) :=
    @Denotes.pointed ['1'] ['9'] (by simp) (by decide) (by simp)
  refine ⟨_, _, _, rfl, rfl, rfl, ?_, ?_, ?_⟩
  · exact (hcompare _ _ _ _ _ _ rfl rfl hlonger hzeros).2.mpr (by norm_num)
  · exact (hcompare _ _ _ _ _ _ rfl rfl hlonger hlarger).1.mpr (by norm_num)
  · exact (hreported _ _).mpr ⟨_, _, _, rfl, hlonger, hlarger, by norm_num⟩

end SignalCatalog.Version
