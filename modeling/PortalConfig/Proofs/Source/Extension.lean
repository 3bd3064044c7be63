import PortalConfig.Proofs.LetterCase
import PortalConfig.Source.Format

/-!
# Formats by extension

The format of a file is read off its path, step by step. `DocumentFormat.EndsIn` and
`DocumentFormat.HasExtension` say on the path itself which name it ends in, and what the extension
of that name is: dots and slashes behind the name do not count, a dot at the start of the name
begins no extension, and the step to the directory above is no name. A file is JSON exactly if it
has the extension `json`, in whatever letter case (`DocumentFormat.ofPath_eq_iff`).
-/

namespace PortalConfig

/-! ## The last place of a mark -/

/-- A mark in a text has a last place. -/
theorem Text.exists_last_place {mark : Char} {text : List Char} (present : mark ∈ text) :
    ∃ before after, text = before ++ mark :: after ∧ mark ∉ after := by
  obtain ⟨after, before, split, absent⟩ := List.eq_append_cons_of_mem (List.mem_reverse.2 present)
  refine ⟨before.reverse, after.reverse, ?_, mt List.mem_reverse.1 absent⟩
  simpa using congrArg List.reverse split

theorem Text.bne_of_mem_reverse {mark : Char} {text : List Char} (absent : mark ∉ text) :
    ∀ c ∈ text.reverse, (c != mark) = true :=
  fun _ mem => bne_iff_ne.2 fun same => absent (same ▸ List.mem_reverse.1 mem)

namespace DocumentFormat

/-! ## Paths -/

/-- The end of a path that leads no further: slashes with nothing or a single dot behind them. -/
inductive Stays : List Char → Prop
  | nil : Stays []
  | slash {rest : List Char} : Stays rest → Stays (rest ++ ['/'])
  | dot {rest : List Char} : Stays rest → Stays (rest ++ ['/', '.'])

/-- A step of a path that leads somewhere. -/
structure IsStep (name : List Char) : Prop where
  nonempty : name ≠ []
  moves : name ≠ ['.']
  single : '/' ∉ name

/-- The last step of the path that leads somewhere: it stands at the start or behind a slash, and
what is behind it leads no further. -/
def EndsIn (path name : List Char) : Prop :=
  IsStep name ∧ ∃ directory rest, path = directory ++ name ++ rest ∧
    (directory = [] ∨ ∃ above, directory = above ++ ['/']) ∧ Stays rest

/-- The path ends in a name with this extension: the name goes on behind its last dot with the
extension, and something stands in front of that dot. Two dots lead to the directory above and are
no name. -/
def HasExtension (path : String) (extension : List Char) : Prop :=
  ∃ stem, EndsIn path.toList (stem ++ '.' :: extension) ∧ stem ≠ [] ∧ '.' ∉ extension ∧
    stem ++ '.' :: extension ≠ ['.', '.']

/-- A file is JSON if its extension says so, and YAML otherwise. -/
inductive IsSaidBy (path : String) : DocumentFormat → Prop
  | json {extension : List Char} : HasExtension path extension →
    Text.SameUpToCase (String.ofList extension) "json" → IsSaidBy path .json
  | yaml : (∀ extension, HasExtension path extension →
    ¬ Text.SameUpToCase (String.ofList extension) "json") → IsSaidBy path .yaml

/-! ## Steps -/

/-- A path is a step, or a step behind a slash and a shorter path. -/
theorem path_induction {motive : List Char → Prop}
    (one : ∀ step, '/' ∉ step → motive step)
    (more : ∀ front step, '/' ∉ step → motive front → motive (front ++ '/' :: step))
    (path : List Char) : motive path :=
  if present : '/' ∈ path then by
    obtain ⟨front, step, whole, absent⟩ := Text.exists_last_place present
    have shorter : front.length < path.length := by
      rw [whole, List.length_append, List.length_cons]
      omega
    rw [whole]
    exact more _ _ absent (path_induction one more front)
  else one path present
termination_by path.length

theorem pathSteps_append (front rest : List Char) :
    pathSteps (front ++ '/' :: rest) = pathSteps front ++ pathSteps rest := by
  rw [pathSteps, List.splitOn_append_cons_self, List.filter_append]
  rfl

theorem IsStep.pathSteps_eq {name : List Char} (step : IsStep name) : pathSteps name = [name] := by
  rw [pathSteps, List.splitOn_eq_singleton step.single]
  exact List.filter_cons_of_pos (by simp [step.nonempty, step.moves])

/-- What leads no further adds no step. -/
theorem Stays.pathSteps_append {rest : List Char} (stays : Stays rest) (path : List Char) :
    pathSteps (path ++ rest) = pathSteps path := by
  induction stays with
  | nil => rw [List.append_nil]
  | slash _ ih =>
      rw [← List.append_assoc, DocumentFormat.pathSteps_append, ih]
      exact List.append_nil _
  | dot _ ih =>
      rw [← List.append_assoc, DocumentFormat.pathSteps_append, ih]
      exact List.append_nil _

theorem EndsIn.slash {front name : List Char} (ends : EndsIn front name) :
    EndsIn (front ++ ['/']) name := by
  obtain ⟨step, directory, rest, rfl, start, stays⟩ := ends
  exact ⟨step, directory, rest ++ ['/'], List.append_assoc _ _ _, start, stays.slash⟩

theorem EndsIn.dot {front name : List Char} (ends : EndsIn front name) :
    EndsIn (front ++ ['/', '.']) name := by
  obtain ⟨step, directory, rest, rfl, start, stays⟩ := ends
  exact ⟨step, directory, rest ++ ['/', '.'], List.append_assoc _ _ _, start, stays.dot⟩

theorem isStep_of_not_mem {step : List Char} (single : '/' ∉ step) :
    step = [] ∨ step = ['.'] ∨ IsStep step := by
  by_cases empty : step = []
  · exact Or.inl empty
  · by_cases dot : step = ['.']
    · exact Or.inr (Or.inl dot)
    · exact Or.inr (Or.inr ⟨empty, dot, single⟩)

/-- The last of the steps is the name that the path ends in. -/
theorem getLast?_pathSteps_eq_some_iff {path name : List Char} :
    (pathSteps path).getLast? = some name ↔ EndsIn path name := by
  constructor
  · induction path using path_induction with
    | one step single =>
        intro last
        rcases isStep_of_not_mem single with rfl | rfl | own
        · cases last
        · cases last
        · rw [own.pathSteps_eq] at last
          obtain rfl : step = name := Option.some.inj last
          exact ⟨own, [], [], (List.append_nil _).symm, Or.inl rfl, .nil⟩
    | more front step single ih =>
        intro last
        rw [pathSteps_append, List.getLast?_append] at last
        rcases isStep_of_not_mem single with rfl | rfl | own
        · exact (ih last).slash
        · exact (ih last).dot
        · rw [own.pathSteps_eq] at last
          obtain rfl : step = name := Option.some.inj last
          exact ⟨own, front ++ ['/'], [], by simp, Or.inr ⟨front, rfl⟩, .nil⟩
  · rintro ⟨step, directory, rest, rfl, start, stays⟩
    rw [stays.pathSteps_append]
    rcases start with rfl | ⟨above, rfl⟩
    · rw [List.nil_append, step.pathSteps_eq]
      rfl
    · rw [List.append_assoc, List.singleton_append, pathSteps_append, step.pathSteps_eq,
        List.getLast?_concat]

/-! ## Extensions -/

theorem extension?_of_not_mem {name : List Char} (absent : '.' ∉ name) :
    extension? name = none := by
  rw [extension?, List.dropWhile_eq_nil_iff.2 (Text.bne_of_mem_reverse absent)]

theorem extension?_append {stem extension : List Char} (absent : '.' ∉ extension) :
    extension? (stem ++ '.' :: extension) = if stem = [] then none else some extension := by
  have letters := Text.bne_of_mem_reverse absent
  have backwards : (stem ++ '.' :: extension).reverse =
      extension.reverse ++ '.' :: stem.reverse := by simp
  rw [extension?, backwards, List.dropWhile_append_of_pos letters,
    List.takeWhile_append_of_pos letters]
  rcases List.eq_nil_or_concat stem with rfl | ⟨before, last, rfl⟩
  · rfl
  · simp

theorem extension?_eq_some_iff {name extension : List Char} :
    extension? name = some extension ↔
      ∃ stem, name = stem ++ '.' :: extension ∧ stem ≠ [] ∧ '.' ∉ extension := by
  constructor
  · intro found
    by_cases present : '.' ∈ name
    · obtain ⟨stem, behind, rfl, absent⟩ := Text.exists_last_place present
      rw [extension?_append absent] at found
      split_ifs at found with empty
      obtain rfl := Option.some.inj found
      exact ⟨stem, rfl, empty, absent⟩
    · rw [extension?_of_not_mem present] at found
      cases found
  · rintro ⟨stem, rfl, nonempty, absent⟩
    rw [extension?_append absent, if_neg nonempty]

theorem hasExtension_iff {path : String} {extension : List Char} :
    HasExtension path extension ↔ ∃ name, (pathSteps path.toList).getLast? = some name ∧
      name ≠ ['.', '.'] ∧ extension? name = some extension := by
  constructor
  · rintro ⟨stem, ends, nonempty, noDot, name⟩
    exact ⟨_, getLast?_pathSteps_eq_some_iff.2 ends, name,
      extension?_eq_some_iff.2 ⟨stem, rfl, nonempty, noDot⟩⟩
  · rintro ⟨name, last, own, found⟩
    obtain ⟨stem, rfl, nonempty, noDot⟩ := extension?_eq_some_iff.1 found
    exact ⟨stem, getLast?_pathSteps_eq_some_iff.1 last, nonempty, noDot, own⟩

/-- A path has one extension at most. -/
theorem HasExtension.unique {path : String} {extension other : List Char}
    (first : HasExtension path extension) (second : HasExtension path other) :
    extension = other := by
  obtain ⟨name, last, -, found⟩ := hasExtension_iff.1 first
  obtain ⟨name', last', -, found'⟩ := hasExtension_iff.1 second
  cases last.symm.trans last'
  exact Option.some.inj (found.symm.trans found')

/-! ## Formats -/

theorem ofPath_of_hasExtension {path : String} {extension : List Char}
    (own : HasExtension path extension) :
    ofPath path =
      if Text.equalIgnoringCase (String.ofList extension) "json" then .json else .yaml := by
  obtain ⟨name, last, moves, found⟩ := hasExtension_iff.1 own
  simp only [ofPath, last, if_neg moves, found]

theorem ofPath_of_forall_not {path : String} (none : ∀ extension, ¬ HasExtension path extension) :
    ofPath path = .yaml := by
  unfold ofPath
  split
  · rename_i name last
    split
    · rename_i extension found
      split at found
      · cases found
      · rename_i moves
        exact (none extension (hasExtension_iff.2 ⟨name, last, moves, found⟩)).elim
    · rfl
  · rfl

theorem IsSaidBy.unique {path : String} {format other : DocumentFormat}
    (first : format.IsSaidBy path) (second : other.IsSaidBy path) : format = other := by
  cases first with
  | json own same =>
      cases second with
      | json => rfl
      | yaml others => exact (others _ own same).elim
  | yaml others =>
      cases second with
      | json own same => exact (others _ own same).elim
      | yaml => rfl

theorem isSaidBy_ofPath (path : String) : (ofPath path).IsSaidBy path := by
  by_cases own : ∃ extension, HasExtension path extension
  · obtain ⟨extension, own⟩ := own
    rw [ofPath_of_hasExtension own]
    split
    · rename_i same
      exact .json own (Text.equalIgnoringCase_iff_sameUpToCase.1 same)
    · rename_i differs
      refine .yaml fun other found same => differs ?_
      rw [own.unique found]
      exact Text.equalIgnoringCase_iff_sameUpToCase.2 same
  · rw [ofPath_of_forall_not (not_exists.1 own)]
    exact .yaml fun extension found => (own ⟨extension, found⟩).elim

/-- **The extension of a file says its format.** -/
theorem ofPath_eq_iff {path : String} {format : DocumentFormat} :
    ofPath path = format ↔ format.IsSaidBy path := by
  constructor
  · rintro rfl
    exact isSaidBy_ofPath path
  · exact (isSaidBy_ofPath path).unique

example : [ofPath "conf/app.local.JSON/.", ofPath "app.json.yaml", ofPath ".json",
    ofPath "app.json/.."] = [.json, .yaml, .yaml, .yaml] := by decide

end DocumentFormat

end PortalConfig
