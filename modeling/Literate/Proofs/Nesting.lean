/-
This file says which files can stand on the stack while inclusions are carried out.
The outermost source may have any name. Above it the names come in groups, one for
each directive under way: a group is the front of what the search for one path has
found, and nothing in it is known to be the same file as anything below the group,
which is decided by canonical forms. Steps of a run only add such a group, or take the
last name away.

So two inputs can be the same file only if one search has found it twice. When the
first match alone is taken, no file is open twice; when every match is taken, a
directory that is listed twice is enough to open a file twice at once, since the
candidates of a directive are compared with the inputs that were open before it
and not with each other.
-/

import Literate.Inclusion.Resolver
import Literate.Proofs.Naming
import Literate.Proofs.Walking

namespace Literate

/-! ### Files and the paths that lead to them -/

namespace FileTree

variable {tree : FileTree}

/-- Whether a regular file is found at a location. -/
def HasFile (tree : FileTree) (location : Location) : Prop :=
  ∃ contents, tree.entryAt? location = some (.file contents)

/-- Two paths have the same canonical form. A path that has none is not the same as any. -/
def Same (tree : FileTree) (first second : Text) : Prop :=
  ∃ location, tree.canonical? first = some location ∧ tree.canonical? second = some location

/-- The canonical form of a path that leads to a regular file is the location of a file. -/
theorem hasFile_of_canonical? {path : Text} {location : Location}
    (isFile : tree.isFile path = true) (leads : tree.canonical? path = some location) :
    tree.HasFile location := by
  unfold FileTree.isFile at isFile
  split at isFile
  · rename_i contents found
    rw [canonical?, found] at leads
    obtain ⟨_, same⟩ := Option.ite_none_right_eq_some.mp leads
    cases same
    exact ⟨contents, (follow_of_locate found).2⟩
  · cases isFile

end FileTree

namespace Resolver

variable {resolver : Resolver} {tree : FileTree}

theorem isActive_iff {names : List Text} {candidate : Text} :
    isActive tree names candidate = true ↔ ∃ name ∈ names, tree.Same name candidate := by
  unfold isActive
  split
  · rename_i nowhere
    refine ⟨nofun, ?_⟩
    rintro ⟨_, _, location, _, found⟩
    rw [nowhere] at found
    cases found
  · rename_i target found
    rw [List.any_eq_true]
    refine exists_congr fun name => and_congr_right fun _ => ?_
    rw [beq_iff_eq]
    constructor
    · intro same
      exact ⟨target, same, found⟩
    · rintro ⟨location, same, foundToo⟩
      rw [same, ← foundToo, found]

/-! ### What a search finds -/

variable {path : Text} {candidates : List Text}

theorem select_of_resolve (found : resolver.resolve tree path = .ok candidates) :
    candidates = resolver.policy.select (resolver.matching tree path) := by
  unfold resolve at found
  split at found
  · cases found
  · cases found
    rfl

theorem sublist_matching (found : resolver.resolve tree path = .ok candidates) :
    candidates.Sublist (resolver.matching tree path) := by
  rw [select_of_resolve found]
  unfold IncludePolicy.select
  split
  · exact List.take_sublist _ _
  · exact List.Sublist.refl _

theorem isFile_of_resolve (found : resolver.resolve tree path = .ok candidates) {candidate : Text}
    (member : candidate ∈ candidates) : tree.isFile candidate = true :=
  (List.mem_filter.mp ((sublist_matching found).subset member)).2

theorem length_le_of_resolve (found : resolver.resolve tree path = .ok candidates) :
    candidates.length ≤ resolver.searchPaths.length := by
  calc candidates.length
      ≤ (resolver.matching tree path).length := (sublist_matching found).length_le
    _ ≤ (resolver.searchPaths.map fun directory => Path.join directory path).length :=
      List.length_filter_le _ _
    _ = resolver.searchPaths.length := List.length_map _

theorem length_le_one_of_firstMatch (first : resolver.policy = .firstMatch)
    (found : resolver.resolve tree path = .ok candidates) : candidates.length ≤ 1 := by
  rw [select_of_resolve found, first]
  exact List.length_take_le _ _

/-- One search finds the two files, in this order. -/
def FindsBoth (resolver : Resolver) (tree : FileTree) (first second : Text) : Prop :=
  ∃ path candidates, resolver.resolve tree path = .ok candidates ∧
    [first, second].Sublist candidates

theorem not_findsBoth_of_firstMatch (firstOnly : resolver.policy = .firstMatch)
    (first second : Text) : ¬ resolver.FindsBoth tree first second := by
  rintro ⟨path, candidates, found, both⟩
  have two : 2 ≤ candidates.length := both.length_le
  have atMostOne := length_le_one_of_firstMatch firstOnly found
  omega

/-! ### What a directive opens -/

theorem names_openAll (tree : FileTree) (candidates : List Text) :
    (openAll tree candidates).opened.map Source.name <+: candidates := by
  induction candidates with
  | nil => exact List.prefix_refl []
  | cons candidate candidates inductionHypothesis =>
    rw [openAll]
    split
    · exact List.nil_prefix
    · exact List.cons_prefix_cons.mpr ⟨rfl, inductionHypothesis⟩

/-- What carrying out a directive can open: nothing, or the files that a search has found, none of
which is open already. -/
theorem handle_opened (resolver : Resolver) (tree : FileTree) (given : Directive)
    (inputs : Inputs) :
    (resolver.handle tree given inputs).opened = [] ∨
      ∃ path candidates, resolver.resolve tree path = .ok candidates ∧
        (∀ candidate ∈ candidates, isActive tree inputs.activeNames candidate = false) ∧
        (resolver.handle tree given inputs).opened = (openAll tree candidates).opened := by
  cases given with
  | language name => exact .inl rfl
  | inclusion path =>
    simp only [handle]
    split
    · exact .inl rfl
    · rename_i candidates found
      split
      · exact .inl rfl
      · rename_i fresh
        refine .inr ⟨path, candidates, found, fun candidate member => ?_, rfl⟩
        exact Bool.eq_false_iff.mpr (List.find?_eq_none.mp fresh candidate member)

/-- A search that finds a file which is open already is refused. -/
theorem handle_of_isActive {inputs : Inputs} (found : resolver.resolve tree path = .ok candidates)
    {candidate : Text} (member : candidate ∈ candidates)
    (active : isActive tree inputs.activeNames candidate = true) :
    ∃ refused ∈ candidates, isActive tree inputs.activeNames refused = true ∧
      resolver.handle tree (.inclusion path) inputs =
        { failure := some (.recursive refused (inputs.activeNames ++ [refused])) } := by
  obtain ⟨refused, first⟩ := Option.isSome_iff_exists.mp
    (List.find?_isSome.mpr ⟨candidate, member, active⟩)
  refine ⟨refused, List.mem_of_find?_eq_some first, List.find?_some first, ?_⟩
  simp only [handle, found, first]

end Resolver

theorem Inputs.activeNames_resume {inputs resumed : Inputs}
    (found : inputs.resume? = some resumed) :
    resumed.activeNames = inputs.activeNames.dropLast := by
  unfold resume? at found
  split at found
  · cases found
  · rename_i input suspended same
    cases found
    rw [activeNames, activeNames, List.dropLast_concat, suspendedNames, suspendedNames, same,
      List.map_cons, List.reverse_cons]

/-- A sink that never opens anything. -/
def Sink.OpensNothing {σ : Type} (sink : Sink σ) : Prop :=
  ∀ state given inputs, (sink.directive state given inputs).opened = []

theorem Sink.opensNothing_observing {σ : Type} (observe : σ → Event → σ) :
    (observing observe).OpensNothing := fun _ _ _ => rfl

namespace Resolver

variable {resolver : Resolver} {tree : FileTree} {σ : Type} {inner : Sink σ}

theorem opened_including (silent : inner.OpensNothing) (state : σ) (given : Directive)
    (inputs : Inputs) :
    ((resolver.including tree inner).directive state given inputs).opened =
      (resolver.handle tree given inputs).opened := by
  simp only [including]
  split
  · rfl
  · rw [silent, List.append_nil]

/-! ### The names on the stack -/

/-- The names that inclusions lead to from an outermost one. Each directive under way has added
the front of what its search has found, and none of that was open below it. -/
inductive Nests (resolver : Resolver) (tree : FileTree) : List Text → Prop where
  | outermost (name : Text) : Nests resolver tree [name]
  | opened {names added candidates : List Text} {path : Text} : Nests resolver tree names →
      resolver.resolve tree path = .ok candidates →
      (∀ candidate ∈ candidates, isActive tree names candidate = false) →
      added <+: candidates → Nests resolver tree (names ++ added)

namespace Nests

/-- Taking the last name away leaves names that inclusions lead to, if any are left. -/
theorem dropLast {names : List Text} (nests : resolver.Nests tree names)
    (more : names.dropLast ≠ []) : resolver.Nests tree names.dropLast := by
  induction nests with
  | outermost name => exact absurd rfl more
  | @opened names added candidates path nests found fresh front inductionHypothesis =>
    rcases List.eq_nil_or_concat added with rfl | ⟨added, name, rfl⟩
    · rw [List.append_nil] at more ⊢
      exact inductionHypothesis more
    · -- A group without its last name is still the front of what was found.
      rw [List.concat_eq_append] at front more ⊢
      rw [← List.append_assoc, List.dropLast_concat]
      exact .opened nests found fresh ((List.prefix_append added [name]).trans front)

/-- Two inputs are the same file only if one search finds both. -/
theorem pairwise {names : List Text} (nests : resolver.Nests tree names) :
    names.Pairwise fun outer inner =>
      tree.Same outer inner → resolver.FindsBoth tree outer inner := by
  induction nests with
  | outermost name => exact List.pairwise_singleton _ _
  | @opened names added candidates path nests found fresh front inductionHypothesis =>
    refine List.pairwise_append.mpr ⟨inductionHypothesis, ?_, ?_⟩
    · refine List.pairwise_iff_forall_sublist.mpr fun both _ => ?_
      exact ⟨path, candidates, found, both.trans front.sublist⟩
    · intro outer below inner added same
      have active := isActive_iff.mpr ⟨outer, below, same⟩
      rw [fresh inner (front.subset added)] at active
      cases active

end Nests

theorem nests_pushAll {inputs : Inputs} (nests : resolver.Nests tree inputs.activeNames)
    (given : Directive) :
    resolver.Nests tree
      (inputs.pushAll (resolver.handle tree given inputs).opened).activeNames := by
  rw [Inputs.activeNames_pushAll]
  obtain nothing | ⟨path, candidates, found, fresh, same⟩ :=
    handle_opened resolver tree given inputs
  · rw [nothing, List.map_nil, List.append_nil]
    exact nests
  · rw [same]
    exact .opened nests found fresh (names_openAll tree candidates)

/-- A step adds what a directive opens, or takes the last name away. -/
theorem nests_step (silent : inner.OpensNothing) (run : Run σ)
    (nests : resolver.Nests tree run.inputs.activeNames) :
    resolver.Nests tree (run.step (resolver.including tree inner)).inputs.activeNames := by
  have read : resolver.Nests tree run.inputs.read.2.activeNames := by
    rw [Inputs.activeNames_read]
    exact nests
  have answered : ∀ given, resolver.Nests tree
      (run.inputs.read.2.pushAll ((resolver.including tree inner).directive run.state given
        run.inputs.read.2).opened).activeNames := by
    intro given
    rw [opened_including silent]
    exact nests_pushAll read given
  have taken := Run.taken_step (resolver.including tree inner) run
  generalize run.step (resolver.including tree inner) = progress at taken ⊢
  cases taken with
  | told => exact read
  | answered => exact answered _
  | rejected => exact answered _
  | resumed _ _ found =>
    have names := Inputs.activeNames_resume found
    refine names ▸ read.dropLast ?_
    rw [← names]
    exact List.append_ne_nil_of_right_ne_nil _ (List.cons_ne_nil _ _)
  | completed => exact read
  | refused => exact read

/-- The stacks of inputs that a run with inclusions comes to, after any number of steps. -/
def Reaches (resolver : Resolver) (tree : FileTree) (inner : Sink σ) (source : Source) (state : σ)
    (inputs : Inputs) : Prop :=
  ∃ bound,
    ((Inputs.ofSource source).run (resolver.including tree inner) bound state).inputs = inputs

theorem nests_of_reaches (silent : inner.OpensNothing) {source : Source} {state : σ}
    {inputs : Inputs} (reached : resolver.Reaches tree inner source state inputs) :
    resolver.Nests tree inputs.activeNames := by
  obtain ⟨bound, rfl⟩ := reached
  exact Run.go_of_step (resolver.Nests tree ·.activeNames) (nests_step silent) bound
    (.outermost source.name)

/-! ### Files that are open twice -/

/-- In every state of a run with inclusions, two inputs are the same file only if one search finds
both of them; when the first match alone is taken, no two inputs are the same file. A directive
whose search finds a file that is open already is refused and opens nothing. -/
theorem not_same_of_reaches (silent : inner.OpensNothing) {source : Source} {state : σ}
    {inputs : Inputs} (reached : resolver.Reaches tree inner source state inputs) :
    (resolver.policy = .firstMatch →
      inputs.activeNames.Pairwise fun outer inner => ¬ tree.Same outer inner) ∧
    (inputs.activeNames.Pairwise fun outer inner =>
      tree.Same outer inner → resolver.FindsBoth tree outer inner) ∧
    ∀ path candidates, resolver.resolve tree path = .ok candidates →
      (∃ candidate ∈ candidates, ∃ name ∈ inputs.activeNames, tree.Same name candidate) →
      ∃ refused ∈ candidates, (∃ name ∈ inputs.activeNames, tree.Same name refused) ∧
        ∀ state, (resolver.including tree inner).directive state (.inclusion path) inputs =
          { failure := some (.recursive refused (inputs.activeNames ++ [refused])), state } := by
  have apart := (nests_of_reaches silent reached).pairwise
  refine ⟨fun firstOnly => ?_, apart, ?_⟩
  · refine apart.imp ?_
    intro outer inner together same
    exact not_findsBoth_of_firstMatch firstOnly outer inner (together same)
  · rintro path candidates found ⟨candidate, member, name, isOpen, same⟩
    obtain ⟨refused, memberToo, active, handled⟩ :=
      handle_of_isActive found member (isActive_iff.mpr ⟨name, isOpen, same⟩)
    refine ⟨refused, memberToo, isActive_iff.mp active, fun state => ?_⟩
    simp only [including, handled]

/-- A file that includes itself is found once more while it is open, and refused. -/
theorem not_same_of_reaches_self_inclusion :
    let tree : FileTree := ⟨[], [([['a'], ['x']], .file "#[include=x]".toUTF8)]⟩
    let resolver : Resolver := ⟨[['a'], ['a']], .firstMatch⟩
    let sink := resolver.including tree .recording
    let inputs := ((Inputs.ofSource ⟨['m'], "#[include=x]".toList⟩).run sink 1 []).inputs
    inputs.activeNames = [['m'], ['a', '/', 'x']] ∧
      (inputs.activeNames.Pairwise fun outer inner => ¬ tree.Same outer inner) ∧
      (sink.directive [] (.inclusion ['x']) inputs).failure =
        some (.recursive ['a', '/', 'x'] [['m'], ['a', '/', 'x'], ['a', '/', 'x']]) := by
  intro tree resolver sink inputs
  have reached : resolver.Reaches tree .recording ⟨['m'], "#[include=x]".toList⟩ [] inputs :=
    ⟨1, rfl⟩
  have names : inputs.activeNames = [['m'], ['a', '/', 'x']] := by decide
  clear_value inputs
  have silent : Sink.recording.OpensNothing := Sink.opensNothing_observing _
  obtain ⟨apart, _, refusal⟩ := not_same_of_reaches silent reached
  refine ⟨names, apart rfl, ?_⟩
  have isOpen : ['a', '/', 'x'] ∈ inputs.activeNames := by simp [names]
  obtain ⟨refused, member, _, answered⟩ := refusal ['x'] [['a', '/', 'x']] (by decide)
    ⟨_, List.mem_singleton_self _, _, isOpen, [['a'], ['x']], by decide, by decide⟩
  obtain rfl := List.mem_singleton.mp member
  have failure := congrArg (·.failure) (answered [])
  rw [names] at failure
  exact failure

/-- When every match is taken, a directory that is listed twice opens a file twice. -/
theorem same_of_directory_listed_twice :
    let tree : FileTree := ⟨[], [([['a'], ['x']], .file "A".toUTF8)]⟩
    let resolver : Resolver := ⟨[['a'], ['a']], .everyMatch⟩
    ∃ inputs, resolver.Reaches tree .recording ⟨['m'], "#[include=x]".toList⟩ [] inputs ∧
      ¬ inputs.activeNames.Pairwise fun outer inner => ¬ tree.Same outer inner := by
  intro tree resolver
  refine ⟨_, ⟨1, rfl⟩, fun apart => ?_⟩
  have names : ((Inputs.ofSource ⟨['m'], "#[include=x]".toList⟩).run
      (resolver.including tree .recording) 1 []).inputs.activeNames =
      [['m'], ['a', '/', 'x'], ['a', '/', 'x']] := by decide
  rw [names] at apart
  obtain ⟨_, apart⟩ := List.pairwise_cons.mp apart
  exact List.rel_of_pairwise_cons apart (List.mem_singleton_self _)
    ⟨[['a'], ['x']], by decide, by decide⟩

end Resolver

end Literate
