/-
What the options of a command come to.

Every command is read by the same rules, and `generate` knows two options more.  So a dry run
makes of the options that are not its own what the other commands make of them
(`options_dry`): it is performed where they are, and with the same whereabouts.
-/
import Worldsmith.Command.Arguments

namespace Worldsmith.Arguments

theorem parse_generate (flags : List String) :
    parse ("generate" :: flags) = options .generate {} flags :=
  rfl

theorem parse_check (flags : List String) : parse ("check" :: flags) = options .check {} flags :=
  rfl

theorem parse_stats (flags : List String) : parse ("stats" :: flags) = options .stats {} flags :=
  rfl

theorem parse_generate_dry (flags : List String) :
    parse ("generate" :: "--dry-run" :: flags) = options .generate { dryRun := true } flags :=
  rfl

/-- What an option does to those before it may go wrong, and else reading goes on. -/
theorem exists_of_bind_eq_ok {o? : Except UsageError Options}
    {next : Options → Except UsageError Request} {r : Request} (h : o? >>= next = .ok r) :
    ∃ o, o? = .ok o ∧ next o = .ok r := by
  cases o? with
  | error e => cases h
  | ok o => exact ⟨o, rfl, h⟩

/-! ### Words of options -/

theorem eq_of_form_long {argument word : String}
    (h : Form.ofText argument = .long word none) : argument = word := by
  rw [Form.ofText] at h
  split at h
  · cases h
  · rename_i cs _ hargument
    split at h
    · cases h
    · rename_i hdrop
      have hword := (Form.long.inj h).1
      have htake : cs.takeWhile (· ≠ '=') = cs := by
        have hsplit := cs.takeWhile_append_dropWhile (p := (· ≠ '='))
        rwa [hdrop, List.append_nil] at hsplit
      rw [← hword, htake, ← String.toList_inj, hargument]
      simp
  · cases h
  · cases h

theorem eq_of_kind?_valued {c : CommandName} {word : String}
    {set : Options → String → Except UsageError Options} (h : kind? c word = some (.valued set)) :
    set = setDirectory ∨ set = setCatalog := by
  unfold kind? at h
  split at h <;> simp_all

theorem kind?_dryRun_ne_valued (c : CommandName)
    (set : Options → String → Except UsageError Options) :
    kind? c "--dry-run" ≠ some (.valued set) := by
  cases c <;> simp [kind?]

/-- A value says nothing of a dry run. -/
theorem dryRun_of_valued {c : CommandName} {word value : String} {o o' : Options}
    {set : Options → String → Except UsageError Options} (h : kind? c word = some (.valued set))
    (hset : set o value = .ok o') : o'.dryRun = o.dryRun := by
  rcases eq_of_kind?_valued h with rfl | rfl
  · rw [setDirectory] at hset
    split at hset
    · cases hset
    · split at hset
      · cases hset
      · exact Except.ok.inj hset ▸ rfl
  · rw [setCatalog] at hset
    split at hset
    · cases hset
    · split at hset
      · cases hset
      · exact Except.ok.inj hset ▸ rfl

/-- Only the option for a dry run makes one. -/
theorem dryRun_of_switch {c : CommandName} {word : String} {o o' : Options}
    {set : Options → Except UsageError Options} (h : kind? c word = some (.switch set))
    (hset : set o = .ok o') : o'.dryRun = (o.dryRun || decide (word = "--dry-run")) := by
  have hswitch : word = "--strict" ∧ set = setStrict ∨ word = "--dry-run" ∧ set = setDryRun := by
    unfold kind? at h
    split at h <;> simp_all
  rcases hswitch with ⟨rfl, rfl⟩ | ⟨rfl, rfl⟩
  · rw [setStrict] at hset
    split at hset
    · cases hset
    · rw [← Except.ok.inj hset]
      simp
  · rw [setDryRun] at hset
    split at hset
    · cases hset
    · rw [← Except.ok.inj hset]
      simp

/-- Where a command is performed, it is the one that was named, and **its run is dry when one of
its words says so.** -/
theorem dryRun_of_options {c : CommandName} {o : Options} {flags : List String} {d : Command}
    (h : options c o flags = .ok (.perform d)) :
    ∃ o' : Options, d = o'.command c
      ∧ o'.dryRun = (o.dryRun || decide ("--dry-run" ∈ flags)) := by
  have hdry : Form.ofText "--dry-run" = .long "--dry-run" none := rfl
  have hother : ∀ {argument form}, Form.ofText argument = form → form ≠ .long "--dry-run" none →
      "--dry-run" ≠ argument := by
    rintro _ form hform hne rfl
    exact hne (hform.symm.trans hdry)
  fun_induction options c o flags
  case case1 o => exact ⟨o, (Request.perform.inj (Except.ok.inj h)).symm, by simp⟩
  case case5 o _ hform =>
    have hword := hother hform (by simp)
    exact ⟨o, (Request.perform.inj (Except.ok.inj h)).symm, by simp [hword]⟩
  case case7 hkind hform ih =>
    obtain ⟨o₁, hset, hrest⟩ := exists_of_bind_eq_ok h
    obtain ⟨o', hd, ho'⟩ := ih o₁ hrest
    have hword := hother hform (by simp)
    exact ⟨o', hd, by simp [ho', dryRun_of_valued hkind hset, hword]⟩
  case case8 hkind hvalue hform ih =>
    obtain ⟨o₁, hset, hrest⟩ := exists_of_bind_eq_ok h
    obtain ⟨o', hd, ho'⟩ := ih o₁ hrest
    have hword := hother hform fun hsame =>
      kind?_dryRun_ne_valued c _ ((Form.long.inj hsame).1 ▸ hkind)
    have hoperand := hother (of_decide_eq_true hvalue) (by simp)
    exact ⟨o', hd, by simp [ho', dryRun_of_valued hkind hset, hword, hoperand]⟩
  case case11 hkind hform ih =>
    obtain ⟨o₁, hset, hrest⟩ := exists_of_bind_eq_ok h
    obtain ⟨o', hd, ho'⟩ := ih o₁ hrest
    refine ⟨o', hd, ?_⟩
    rw [ho', dryRun_of_switch hkind hset, ← eq_of_form_long hform]
    simp [Bool.or_assoc, eq_comm]
  all_goals cases h

theorem generate_of_parse {flags : List String} {d : Command}
    (h : parse ("generate" :: flags) = .ok (.perform d)) :
    ∃ whereabouts strict dryRun, d = .generate whereabouts strict dryRun := by
  obtain ⟨o, rfl, -⟩ := dryRun_of_options ((parse_generate flags).symm.trans h)
  exact ⟨_, _, _, rfl⟩

theorem options_ne_showVersion (c : CommandName) (o : Options) (flags : List String) :
    options c o flags ≠ .ok .showVersion := by
  intro h
  fun_induction options c o flags
  case case7 ih | case8 ih | case11 ih =>
    obtain ⟨o', -, hrest⟩ := exists_of_bind_eq_ok h
    exact ih o' hrest
  all_goals cases h

/-! ### Dry runs -/

/-- The options of a dry run. -/
def Options.dry (o : Options) : Options := { o with dryRun := true }

/-- What a command and a dry run make of the same options: both are performed with them, or
both are answered with help, or something is wrong for both. -/
inductive Alike (c : CommandName) :
    Except UsageError Request → Except UsageError Request → Prop
  | perform (o : Options) : Alike c (.ok (.perform (o.command c)))
      (.ok (.perform (o.dry.command .generate)))
  | help : Alike c (.ok .showHelp) (.ok .showHelp)
  | wrong (e e' : UsageError) : Alike c (.error e) (.error e')

variable {c : CommandName}

/-- The other commands lack the options of `generate`, and have the rest in common with it. -/
theorem kind?_of_ne_generate (hc : c ≠ .generate) (word : String) :
    kind? c word = if word ∈ ["--strict", "--dry-run"] then none else kind? .generate word := by
  cases c with
  | generate => exact absurd rfl hc
  | check | stats =>
      unfold kind?
      split <;> simp_all

theorem kind?_generate_of_eq_some (hc : c ≠ .generate) {word : String} {kind : Kind}
    (h : kind? c word = some kind) : kind? .generate word = some kind := by
  rw [kind?_of_ne_generate hc] at h
  split at h
  · cases h
  · exact h

/-- An option with a value says the same in a dry run. -/
theorem valued_dry {word : String} {set : Options → String → Except UsageError Options}
    (h : kind? c word = some (.valued set)) (o : Options) (value : String) :
    set o.dry value = (set o value).map Options.dry := by
  rcases eq_of_kind?_valued h with rfl | rfl
  · by_cases hgiven : o.directory?.isSome <;> by_cases hempty : value = "" <;>
      simp [setDirectory, Options.dry, Except.map, hgiven, hempty]
  · by_cases hgiven : o.catalog?.isSome <;> by_cases hempty : value = "" <;>
      simp [setCatalog, Options.dry, Except.map, hgiven, hempty]

theorem kind?_ne_switch (hc : c ≠ .generate) (word : String)
    (set : Options → Except UsageError Options) : kind? c word ≠ some (.switch set) := by
  cases c with
  | generate => exact absurd rfl hc
  | check | stats =>
      unfold kind?
      split <;> simp_all

/-- What a dry run makes of an option that the other commands do not know. -/
theorem options_dry_unknown {o : Options} {argument : String} {word : String}
    {value? : Option String} {rest : List String} (hc : c ≠ .generate)
    (hform : Form.ofText argument = .long word value?) (hkind : kind? c word = none)
    (hstrict : argument ≠ "--strict") :
    ∃ e, options .generate o.dry (argument :: rest) = .error e := by
  rw [kind?_of_ne_generate hc] at hkind
  split at hkind
  · rename_i hword
    have hswitch : ∃ set, kind? .generate word = some (.switch set)
        ∧ (value? = none → set o.dry = .error (.repeated "--dry-run")) := by
      have hwords : word = "--strict" ∨ word = "--dry-run" := by simpa using hword
      rcases hwords with rfl | rfl
      · refine ⟨setStrict, rfl, fun hvalue => ?_⟩
        rw [hvalue] at hform
        exact absurd (eq_of_form_long hform) hstrict
      · exact ⟨setDryRun, rfl, fun _ => rfl⟩
    obtain ⟨set, hset, hrepeated⟩ := hswitch
    rw [options.eq_def]
    cases value? with
    | some value => exact ⟨.unneededValue word, by simp only [hform, hset]⟩
    | none =>
        refine ⟨.repeated "--dry-run", ?_⟩
        simp only [hform, hset, hrepeated]
        rfl
  · refine ⟨.unexpected argument, ?_⟩
    rw [options.eq_def]
    simp only [hform, hkind]

/-- **A dry run is told what any command is told.** -/
theorem options_dry (hc : c ≠ .generate) (o : Options) {flags : List String}
    (hstrict : "--strict" ∉ flags) :
    Alike c (options c o flags) (options .generate o.dry flags) := by
  -- what a value does to the options it does to those of a dry run, and reading goes on
  have hvalued : ∀ {word set}, kind? c word = some (.valued set) → ∀ o value rest,
      (∀ o, Alike c (options c o rest) (options .generate (Options.dry o) rest)) →
      Alike c (set o value >>= (options c · rest))
        (set o.dry value >>= (options .generate · rest)) := by
    intro word set hkind o value rest ih
    rw [valued_dry hkind]
    cases set o value with
    | error e => exact .wrong e e
    | ok o' => exact ih o'
  fun_induction options c o flags
  case case1 o => exact .perform o
  case case15 hform _ hkind =>
    obtain ⟨e, he⟩ := options_dry_unknown hc hform hkind fun h =>
      hstrict (h ▸ List.mem_cons_self)
    rw [he]
    exact .wrong _ e
  all_goals rw [options.eq_def .generate]
  case case2 hform | case6 hform _ _ => simp only [hform]; exact .wrong _ _
  case case3 hform => simp only [hform]; exact .help
  case case4 hletter hform => simp only [hform]; exact .wrong _ _
  case case5 hform => simp only [hform]; exact .perform _
  case case7 hkind hform ih =>
    simp only [hform, kind?_generate_of_eq_some hc hkind]
    exact hvalued hkind _ _ _ fun o => ih o fun h => hstrict (List.mem_cons_of_mem _ h)
  case case8 hkind hvalue hform ih =>
    simp only [hform, kind?_generate_of_eq_some hc hkind, if_pos hvalue]
    exact hvalued hkind _ _ _ fun o => ih o fun h =>
      hstrict (List.mem_cons_of_mem _ (List.mem_cons_of_mem _ h))
  case case9 hkind hvalue hform =>
    simp only [hform, kind?_generate_of_eq_some hc hkind, if_neg hvalue]
    exact .wrong _ _
  case case10 hkind hform | case14 hkind hform =>
    simp only [hform, kind?_generate_of_eq_some hc hkind]
    exact .wrong _ _
  case case11 hkind _ _ | case13 hkind _ => exact absurd hkind (kind?_ne_switch hc _ _)
  case case12 hkind hform =>
    simp only [hform, kind?_generate_of_eq_some hc hkind]
    exact .help

end Worldsmith.Arguments
