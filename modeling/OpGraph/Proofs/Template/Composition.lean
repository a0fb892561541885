import OpGraph.Proofs.Kernel.Unmarked
import OpGraph.Proofs.Template.Scanning

/-!
# Rendering in two steps

A rendered text can be rendered again, with values for the placeholders that the first values
brought in. This comes to one rendering with the values rendered beforehand (`render_render`), as
long as no text on the way has an `@` outside of its placeholders: scanning then takes texts that
stand next to each other apart again (`scan_flatten`), so no placeholder is made or lost where they
meet.
-/
namespace OpGraph.Template

/-- Every `@` belongs to a placeholder. -/
def IsClean (text : String) : Prop :=
  .char '@' ∉ scan text.toList

instance (text : String) : Decidable (IsClean text) :=
  inferInstanceAs (Decidable (.char '@' ∉ scan text.toList))

/-- A key of one of the values that a template is rendered with. -/
def IsInner (text : String) (first : String → Option String) (key : String) : Prop :=
  ∃ outer ∈ keys text, ∃ value, first outer = some value ∧ key ∈ keys value

/-- The values of the first map, rendered with the second one. -/
def composed (first second : String → Option String) (key : String) : Option String :=
  (first key).bind fun value => (render value second).toOption

/-! ### Texts next to each other -/

theorem scan_append (front back : List Char) (clean : .char '@' ∉ scan front) :
    scan (front ++ back) = scan front ++ scan back := by
  -- The induction is on the pieces, since one on the characters would cut placeholders in two.
  have split := isSplit_scan front
  generalize scan front = pieces at split clean
  induction pieces generalizing front with
  | nil => rw [← split.spelled]; rfl
  | cons piece pieces ih =>
    rw [List.mem_cons, not_or] at clean
    have later := ih _ split.tail clean.2
    rw [← split.spelled, spelling_cons, List.append_assoc, List.cons_append, ← later]
    cases piece with
    | char c => exact scan_plain c _ fun marker => clean.1 (by rw [marker])
    | key name =>
      have found := scan_hole name (spelling pieces ++ back) (split.named name List.mem_cons_self)
      simpa [Piece.spelling] using found

theorem scan_flatten (texts : List (List Char)) (clean : ∀ text ∈ texts, .char '@' ∉ scan text) :
    scan texts.flatten = texts.flatMap scan := by
  induction texts with
  | nil => rw [List.flatten_nil, scan]; rfl
  | cons text texts ih =>
    obtain ⟨here, later⟩ := List.forall_mem_cons.mp clean
    rw [List.flatten_cons, List.flatMap_cons, scan_append text _ here, ih later]

/-! ### The text between the renderings -/

section Between

variable {text middle : String} {first : String → Option String}

theorem scan_singleton (c : Char) : scan [c] = [.char c] := by
  have none : ¬BeginsPlaceholder [c] := by
    rintro ⟨name, rest, -, same⟩
    simpa using congrArg List.length same
  exact (IsSplit.char none .nil).scan_eq

variable (clean : IsClean text)
  (covered : ∀ key ∈ keys text, ∃ value, first key = some value ∧ IsClean value)

include clean covered

theorem not_mem_scan_expand {piece : Piece} (among : piece ∈ scan text.toList) :
    .char '@' ∉ scan (expand first piece) := by
  cases piece with
  | char c =>
    rw [expand, scan_singleton, List.mem_singleton]
    exact fun marker => clean (marker ▸ among)
  | key name =>
    obtain ⟨value, held, isClean⟩ := covered _ (mem_keys_of_scan among)
    rwa [expand, held, Option.getD_some]

variable (rendered : render text first = .ok middle)

include rendered

/-- Placeholders are neither merged nor split nor missed where values meet. -/
theorem scan_rendered :
    scan middle.toList = (scan text.toList).flatMap fun piece => scan (expand first piece) := by
  obtain ⟨-, rfl⟩ := render_eq_ok.mp rendered
  have each : ∀ part ∈ (scan text.toList).map (expand first), .char '@' ∉ scan part := by
    rw [List.forall_mem_map]
    exact fun piece among => not_mem_scan_expand clean covered among
  rw [String.toList_ofList, List.flatMap_def, scan_flatten _ each, List.flatMap_map]

theorem isClean_rendered : IsClean middle := by
  rw [IsClean, scan_rendered clean covered rendered]
  intro marked
  obtain ⟨piece, among, marked⟩ := List.mem_flatMap.mp marked
  exact not_mem_scan_expand clean covered among marked

theorem mem_keys_rendered {key : String} : key ∈ keys middle ↔ IsInner text first key := by
  rw [mem_keys, scan_rendered clean covered rendered, List.mem_flatMap]
  constructor
  · rintro ⟨piece, among, inner⟩
    cases piece with
    | char c =>
      rw [expand, scan_singleton, List.mem_singleton] at inner
      cases inner
    | key name =>
      have outer := mem_keys_of_scan among
      obtain ⟨value, held, -⟩ := covered _ outer
      rw [expand, held, Option.getD_some] at inner
      exact ⟨_, outer, value, held, mem_keys.mpr inner⟩
  · rintro ⟨outer, member, value, held, inner⟩
    refine ⟨.key outer.toList, mem_keys.mp member, ?_⟩
    rw [expand, String.ofList_toList, held, Option.getD_some]
    exact mem_keys.mp inner

variable {second : String → Option String} {result : String}

theorem render_composed (again : render middle second = .ok result) :
    render text (composed first second) = .ok result := by
  obtain ⟨known, rfl⟩ := render_eq_ok.mp again
  -- The values of the first map can be rendered, since their keys are known.
  have values {key value : String} (member : key ∈ keys text) (held : first key = some value) :
      composed first second key =
        some (String.ofList ((scan value.toList).flatMap (expand second))) := by
    have inner : ∀ other ∈ keys value, (second other).isSome = true := fun other among =>
      known other ((mem_keys_rendered clean covered rendered).mpr ⟨key, member, value, held, among⟩)
    rw [composed, held, Option.bind_some]
    exact Outcome.toOption_eq_some.mpr (render_eq_ok.mpr ⟨inner, rfl⟩)
  refine render_eq_ok.mpr ⟨fun key member => ?_, congrArg String.ofList ?_⟩
  · obtain ⟨value, held, -⟩ := covered key member
    rw [values member held]
    rfl
  · rw [scan_rendered clean covered rendered, List.flatMap_assoc]
    refine List.flatMap_congr fun piece among => ?_
    cases piece with
    | char c => simp [expand, scan_singleton]
    | key name =>
      have member := mem_keys_of_scan among
      obtain ⟨value, held, -⟩ := covered _ member
      rw [expand, expand, values member held, held, Option.getD_some, Option.getD_some,
        String.toList_ofList]

theorem isUnmarked_rendered (again : render middle second = .ok result)
    (plain : ∀ key value, IsInner text first key → second key = some value → IsUnmarked value) :
    IsUnmarked result := by
  obtain ⟨known, rfl⟩ := render_eq_ok.mp again
  rw [IsUnmarked, String.toList_ofList, List.mem_flatMap]
  rintro ⟨piece, among, marked⟩
  cases piece with
  | char c =>
    rw [expand, List.mem_singleton] at marked
    exact isClean_rendered clean covered rendered (marked ▸ among)
  | key name =>
    have member := mem_keys_of_scan among
    obtain ⟨value, held⟩ := Option.isSome_iff_exists.mp (known _ member)
    rw [expand, held, Option.getD_some] at marked
    exact plain _ value ((mem_keys_rendered clean covered rendered).mp member) held marked

end Between

/-- A text that is rendered with clean values is rendered again just when the keys of these values
are known, and then as by one rendering with the values rendered before. It stays as it is if
nothing is left to be filled. -/
theorem render_render (text : String) (first second : String → Option String)
    (clean : IsClean text)
    (covered : ∀ key ∈ keys text, ∃ value, first key = some value ∧ IsClean value) :
    ∃ middle, render text first = .ok middle ∧
      scan middle.toList = ((scan text.toList).flatMap fun piece => scan (expand first piece)) ∧
      ((∃ result, render middle second = .ok result) ↔
        ∀ key, IsInner text first key → (second key).isSome = true) ∧
      ∀ result, render middle second = .ok result →
        render text (composed first second) = .ok result ∧
          ((∀ key value, IsInner text first key → second key = some value → IsUnmarked value) →
            ∀ third, render result third = .ok result) := by
  have known : ∀ key ∈ keys text, (first key).isSome = true := fun key member => by
    obtain ⟨value, held, -⟩ := covered key member
    rw [held]
    rfl
  have rendered := render_eq_ok.mpr ⟨known, rfl⟩
  refine ⟨_, rendered, scan_rendered clean covered rendered, ?_, fun result again =>
    ⟨render_composed clean covered rendered again, fun plain third => ?_⟩⟩
  · simp only [render_eq_ok, exists_and_left, exists_eq, and_true,
      mem_keys_rendered clean covered rendered]
  · have unmarked := isUnmarked_rendered clean covered rendered again plain
    exact render_placeholders (by simp [unmarked.keys])

/-- Two values that begin and end with placeholders, next to each other. -/
theorem render_render_adjacent :
    let first : String → Option String := fun key =>
      if key = "a" then some "@k@-@l@" else if key = "b" then some "@l@" else none
    let second : String → Option String := fun key =>
      if key = "l" then some "3" else if key = "k" then some "[2]" else none
    render "@a@@b@" first = .ok "@k@-@l@@l@" ∧ render "@k@-@l@@l@" second = .ok "[2]-33" ∧
      render "@a@@b@" (composed first second) = .ok "[2]-33" ∧
      render "[2]-33" (fun _ => none) = .ok "[2]-33" := by
  intro first second
  have outer : keys "@a@@b@" = ["a", "b"] := by cbv
  have inner : keys "@k@-@l@@l@" = ["k", "l"] := by cbv
  have covered : ∀ key ∈ keys "@a@@b@", ∃ value, first key = some value ∧ IsClean value := by
    rw [outer, List.forall_mem_cons, List.forall_mem_singleton]
    exact ⟨⟨"@k@-@l@", rfl, by decide +kernel⟩, "@l@", rfl, by decide +kernel⟩
  obtain ⟨middle, rendered, -, -, follows⟩ :=
    render_render "@a@@b@" first second (by decide +kernel) covered
  have once : render "@a@@b@" first = .ok "@k@-@l@@l@" :=
    render_eq_ok.mpr ⟨by rw [outer]; decide, by decide +kernel⟩
  have again : render "@k@-@l@@l@" second = .ok "[2]-33" :=
    render_eq_ok.mpr ⟨by rw [inner]; decide, by decide +kernel⟩
  obtain rfl : middle = "@k@-@l@@l@" := Except.ok.inj (rendered.symm.trans once)
  obtain ⟨whole, filled⟩ := follows _ again
  refine ⟨once, again, whole, filled (fun key value _ held => ?_) _⟩
  have either : value = "3" ∨ value = "[2]" := by
    simp only [second, ite_eq_iff, Option.some.injEq] at held
    rcases held with ⟨-, same⟩ | ⟨-, ⟨-, same⟩ | ⟨-, same⟩⟩
    · exact .inl same.symm
    · exact .inr same.symm
    · cases same
  rcases either with rfl | rfl <;> decide

end OpGraph.Template
