/-
This file says exactly how an include directive is answered. The directive is about
its candidates, the files that the search and the policy select for its path. There are
four answers, and each has a condition of its own: there is no candidate; some candidate
is open already, and the first such is refused; none is open and some candidate is no
text, and the first such is reported; or all of them are opened. Exactly one of the
conditions holds, so the conditions tell the answers apart.

Since all candidates are compared with the stack before the first is opened, a directive
that finds nothing or is refused leaves the stack as it was. Reading is different: the
candidates are read while they are being opened, so one that cannot be read is met
when those in front of it are open, and these stay open.
-/

import Literate.Proofs.Nesting

namespace Literate

namespace FileTree

variable {tree : FileTree}

/-- A path leads to the same place as the name of an input on a stack. -/
def IsOpen (tree : FileTree) (inputs : Inputs) (path : Text) : Prop :=
  ∃ name ∈ inputs.activeNames, tree.Same name path

/-- Each source has the text of the file that it is named after. -/
def Holds (tree : FileTree) (sources : List Source) : Prop :=
  ∀ source ∈ sources, tree.readText source.name = .ok source.text

/-- Paths lead to readable files, all of them or up to a first one that does not. -/
theorem holds_or_unreadable (tree : FileTree) (paths : List Text) :
    (∃ sources, paths = sources.map Source.name ∧ tree.Holds sources) ∨
      ∃ sources unread behind reason, paths = sources.map Source.name ++ unread :: behind ∧
        tree.Holds sources ∧ tree.readText unread = .error reason := by
  induction paths with
  | nil => exact .inl ⟨[], rfl, fun _ member => absurd member List.not_mem_nil⟩
  | cons path paths inductionHypothesis =>
    cases result : tree.readText path with
    | error reason =>
      exact .inr ⟨[], path, paths, reason, rfl, fun _ member => absurd member List.not_mem_nil,
        result⟩
    | ok text =>
      obtain ⟨sources, rfl, holds⟩ | ⟨sources, unread, behind, reason, rfl, holds, fails⟩ :=
        inductionHypothesis
      · exact .inl ⟨⟨path, text⟩ :: sources, rfl, List.forall_mem_cons.mpr ⟨result, holds⟩⟩
      · exact .inr ⟨⟨path, text⟩ :: sources, unread, behind, reason, rfl,
          List.forall_mem_cons.mpr ⟨result, holds⟩, fails⟩

theorem exists_holds {paths : List Text}
    (readable : ∀ path ∈ paths, ∃ text, tree.readText path = .ok text) :
    ∃ sources, paths = sources.map Source.name ∧ tree.Holds sources := by
  refine (holds_or_unreadable tree paths).resolve_right ?_
  rintro ⟨sources, unread, behind, reason, rfl, _, fails⟩
  obtain ⟨text, succeeds⟩ := readable unread (List.mem_append_right _ List.mem_cons_self)
  exact nomatch succeeds.symm.trans fails

theorem Holds.readable {sources : List Source} (holds : tree.Holds sources) :
    ∀ path ∈ sources.map Source.name, ∃ text, tree.readText path = .ok text := by
  intro path member
  obtain ⟨source, isSource, rfl⟩ := List.mem_map.mp member
  exact ⟨source.text, holds source isSource⟩

/-- A regular file can be read unless its bytes encode no text. -/
theorem eq_notText_of_isFile {path : Text} (isFile : tree.isFile path = true) {reason : FileError}
    (fails : tree.readText path = .error reason) : reason = .notText := by
  unfold FileTree.isFile at isFile
  split at isFile
  · rename_i location contents found
    simp only [readText, readBytes, found] at fails
    split at fails
    · exact nomatch fails
    · exact (Except.error.inj fails).symm
  · exact nomatch isFile

end FileTree

/-- Opening sources suspends the current input and all of them but the last, the earlier the
deeper, and each is at its beginning. -/
theorem Inputs.pushAll_concat_eq (inputs : Inputs) (sources : List Source) (last : Source) :
    inputs.pushAll (sources ++ [last]) = ⟨.ofSource last,
      (sources.map Input.ofSource).reverse ++ inputs.current :: inputs.suspended⟩ := by
  rw [pushAll_concat, push]
  congr 1
  induction sources generalizing inputs with
  | nil => rfl
  | cons source sources inductionHypothesis =>
    rw [show inputs.pushAll (source :: sources) = (inputs.push source).pushAll sources from rfl,
      inductionHypothesis, List.map_cons, List.reverse_cons, List.append_assoc]
    rfl

namespace Resolver

variable {resolver : Resolver} {tree : FileTree} {path : Text} {inputs : Inputs}

/-! ### Candidates -/

/-- The files that a directive with a path is about, in search order. -/
def candidates (resolver : Resolver) (tree : FileTree) (path : Text) : List Text :=
  resolver.policy.select (resolver.matching tree path)

theorem candidates_eq_nil_iff :
    resolver.candidates tree path = [] ↔
      ∀ directory ∈ resolver.searchPaths, tree.isFile (Path.join directory path) = false := by
  have same : resolver.candidates tree path = [] ↔ resolver.matching tree path = [] := by
    unfold candidates IncludePolicy.select
    split
    · simp
    · rfl
  rw [same, matching, List.filter_eq_nil_iff, List.forall_mem_map]
  simp only [Bool.not_eq_true]

theorem resolve_of_nil (nothing : resolver.candidates tree path = []) :
    resolver.resolve tree path = .error (.notFound path resolver.searchPaths) := by
  unfold candidates at nothing
  rw [resolve, nothing]

theorem resolve_of_ne_nil (more : resolver.candidates tree path ≠ []) :
    resolver.resolve tree path = .ok (resolver.candidates tree path) := by
  unfold candidates at more ⊢
  unfold resolve
  split
  · rename_i nothing
    exact absurd nothing more
  · rfl

theorem isFile_of_mem_candidates {candidate : Text}
    (member : candidate ∈ resolver.candidates tree path) : tree.isFile candidate = true :=
  isFile_of_resolve (resolve_of_ne_nil (List.ne_nil_of_mem member)) member

theorem length_candidates_le_one (first : resolver.policy = .firstMatch) (tree : FileTree)
    (path : Text) : (resolver.candidates tree path).length ≤ 1 := by
  rw [candidates, first]
  exact List.length_take_le _ _

/-! ### Comparing and opening the candidates -/

theorem find?_isActive_eq_some_iff {paths : List Text} {refused : Text} :
    paths.find? (isActive tree inputs.activeNames) = some refused ↔
      ∃ before behind, paths = before ++ refused :: behind ∧ tree.IsOpen inputs refused ∧
        ∀ earlier ∈ before, ¬tree.IsOpen inputs earlier := by
  rw [List.find?_eq_some_iff_append]
  simp only [Bool.not_eq_true', Bool.eq_false_iff, Ne, isActive_iff, FileTree.IsOpen]
  constructor
  · rintro ⟨isOpen, before, behind, split, passed⟩
    exact ⟨before, behind, split, isOpen, passed⟩
  · rintro ⟨before, behind, split, isOpen, passed⟩
    exact ⟨isOpen, before, behind, split, passed⟩

theorem find?_isActive_eq_none_iff {paths : List Text} :
    paths.find? (isActive tree inputs.activeNames) = none ↔
      ∀ path ∈ paths, ¬tree.IsOpen inputs path := by
  simp only [List.find?_eq_none, isActive_iff, FileTree.IsOpen]

theorem openAll_append {sources : List Source} (holds : tree.Holds sources) (rest : List Text) :
    openAll tree (sources.map Source.name ++ rest) =
      ⟨sources ++ (openAll tree rest).opened, (openAll tree rest).failure⟩ := by
  induction sources with
  | nil => rfl
  | cons source sources inductionHypothesis =>
    obtain ⟨first, rest⟩ := List.forall_mem_cons.mp holds
    rw [List.map_cons, List.cons_append, openAll, first]
    simp only [inductionHypothesis rest, List.cons_append]

theorem openAll_of_holds {sources : List Source} (holds : tree.Holds sources) :
    openAll tree (sources.map Source.name) = { opened := sources } := by
  have opened := openAll_append holds []
  rwa [List.append_nil, openAll, List.append_nil] at opened

theorem openAll_of_unreadable {sources : List Source} (holds : tree.Holds sources) {unread : Text}
    {reason : FileError} (fails : tree.readText unread = .error reason) (behind : List Text) :
    openAll tree (sources.map Source.name ++ unread :: behind) =
      { opened := sources, failure := some (.unreadable unread reason) } := by
  rw [openAll_append holds, openAll, fails, List.append_nil]

/-! ### Answers -/

/-- The answer to a directive with a path, by what its candidates are. -/
inductive Answer (resolver : Resolver) (tree : FileTree) (path : Text) (inputs : Inputs) :
    Opening → Prop where
  | notFound : resolver.candidates tree path = [] →
      Answer resolver tree path inputs { failure := some (.notFound path resolver.searchPaths) }
  | recursive {before behind : List Text} {refused : Text} :
      resolver.candidates tree path = before ++ refused :: behind →
      tree.IsOpen inputs refused → (∀ earlier ∈ before, ¬tree.IsOpen inputs earlier) →
      Answer resolver tree path inputs
        { failure := some (.recursive refused (inputs.activeNames ++ [refused])) }
  | unreadable {sources : List Source} {behind : List Text} {unread : Text} {reason : FileError} :
      resolver.candidates tree path = sources.map Source.name ++ unread :: behind →
      (∀ candidate ∈ resolver.candidates tree path, ¬tree.IsOpen inputs candidate) →
      tree.Holds sources → tree.readText unread = .error reason →
      Answer resolver tree path inputs
        { opened := sources, failure := some (.unreadable unread reason) }
  | opened {sources : List Source} : resolver.candidates tree path = sources.map Source.name →
      sources ≠ [] → (∀ candidate ∈ resolver.candidates tree path, ¬tree.IsOpen inputs candidate) →
      tree.Holds sources → Answer resolver tree path inputs { opened := sources }

theorem handle_of_nil (nothing : resolver.candidates tree path = []) (inputs : Inputs) :
    resolver.handle tree (.inclusion path) inputs =
      { failure := some (.notFound path resolver.searchPaths) } := by
  simp only [handle, resolve_of_nil nothing]

theorem handle_of_isOpen {before behind : List Text} {refused : Text}
    (split : resolver.candidates tree path = before ++ refused :: behind)
    (isOpen : tree.IsOpen inputs refused)
    (passed : ∀ earlier ∈ before, ¬tree.IsOpen inputs earlier) :
    resolver.handle tree (.inclusion path) inputs =
      { failure := some (.recursive refused (inputs.activeNames ++ [refused])) } := by
  have more : resolver.candidates tree path ≠ [] := by simp [split]
  simp only [handle, resolve_of_ne_nil more,
    find?_isActive_eq_some_iff.mpr ⟨_, _, split, isOpen, passed⟩]

theorem handle_of_noneOpen (more : resolver.candidates tree path ≠ [])
    (noneOpen : ∀ candidate ∈ resolver.candidates tree path, ¬tree.IsOpen inputs candidate) :
    resolver.handle tree (.inclusion path) inputs =
      openAll tree (resolver.candidates tree path) := by
  simp only [handle, resolve_of_ne_nil more, find?_isActive_eq_none_iff.mpr noneOpen]

/-- The condition of an answer is enough for it to be given. -/
theorem Answer.handle {opening : Opening} (answer : resolver.Answer tree path inputs opening) :
    resolver.handle tree (.inclusion path) inputs = opening := by
  cases answer with
  | notFound nothing => exact handle_of_nil nothing inputs
  | recursive split isOpen passed => exact handle_of_isOpen split isOpen passed
  | unreadable split noneOpen holds fails =>
    rw [handle_of_noneOpen (by simp [split]) noneOpen, split]
    exact openAll_of_unreadable holds fails _
  | opened same more noneOpen holds =>
    rw [handle_of_noneOpen (by simpa [same] using more) noneOpen, same]
    exact openAll_of_holds holds

/-- One of the four conditions holds for every directive with a path. -/
theorem exists_answer (resolver : Resolver) (tree : FileTree) (path : Text) (inputs : Inputs) :
    ∃ opening, resolver.Answer tree path inputs opening := by
  rcases eq_or_ne (resolver.candidates tree path) [] with nothing | more
  · exact ⟨_, .notFound nothing⟩
  cases found : (resolver.candidates tree path).find? (isActive tree inputs.activeNames) with
  | some refused =>
    obtain ⟨before, behind, split, isOpen, passed⟩ := find?_isActive_eq_some_iff.mp found
    exact ⟨_, .recursive split isOpen passed⟩
  | none =>
    have noneOpen := find?_isActive_eq_none_iff.mp found
    obtain ⟨sources, same, holds⟩ | ⟨sources, unread, behind, reason, split, holds, fails⟩ :=
      tree.holds_or_unreadable (resolver.candidates tree path)
    · exact ⟨_, .opened same (by simpa [same] using more) noneOpen holds⟩
    · exact ⟨_, .unreadable split noneOpen holds fails⟩

/-! ### Which answer is given -/

theorem failure_eq_notFound_iff {asked : Text} {searched : List Text} :
    (resolver.handle tree (.inclusion path) inputs).failure = some (.notFound asked searched) ↔
      (∀ directory ∈ resolver.searchPaths, tree.isFile (Path.join directory path) = false) ∧
        asked = path ∧ searched = resolver.searchPaths := by
  constructor
  · intro fails
    obtain ⟨opening, answer⟩ := exists_answer resolver tree path inputs
    rw [answer.handle] at fails
    cases answer with
    | notFound nothing =>
      cases fails
      exact ⟨candidates_eq_nil_iff.mp nothing, rfl, rfl⟩
    | recursive => exact nomatch fails
    | unreadable => exact nomatch fails
    | opened => exact nomatch fails
  · rintro ⟨nowhere, rfl, rfl⟩
    rw [(Answer.notFound (candidates_eq_nil_iff.mpr nowhere)).handle]

theorem failure_eq_recursive_iff {refused : Text} {chain : List Text} :
    (resolver.handle tree (.inclusion path) inputs).failure = some (.recursive refused chain) ↔
      ∃ before behind, resolver.candidates tree path = before ++ refused :: behind ∧
        tree.IsOpen inputs refused ∧ (∀ earlier ∈ before, ¬tree.IsOpen inputs earlier) ∧
        chain = inputs.activeNames ++ [refused] := by
  constructor
  · intro fails
    obtain ⟨opening, answer⟩ := exists_answer resolver tree path inputs
    rw [answer.handle] at fails
    cases answer with
    | notFound => exact nomatch fails
    | recursive split isOpen passed =>
      cases fails
      exact ⟨_, _, split, isOpen, passed, rfl⟩
    | unreadable => exact nomatch fails
    | opened => exact nomatch fails
  · rintro ⟨before, behind, split, isOpen, passed, rfl⟩
    rw [(Answer.recursive split isOpen passed).handle]

theorem exists_recursive_iff :
    (∃ refused chain,
      (resolver.handle tree (.inclusion path) inputs).failure = some (.recursive refused chain)) ↔
      ∃ candidate ∈ resolver.candidates tree path, tree.IsOpen inputs candidate := by
  constructor
  · rintro ⟨refused, chain, fails⟩
    obtain ⟨before, behind, split, isOpen, _⟩ := failure_eq_recursive_iff.mp fails
    exact ⟨refused, split ▸ List.mem_append_right before List.mem_cons_self, isOpen⟩
  · rintro ⟨candidate, member, isOpen⟩
    obtain ⟨opening, answer⟩ := exists_answer resolver tree path inputs
    rw [answer.handle]
    cases answer with
    | notFound nothing => exact absurd (nothing ▸ member) List.not_mem_nil
    | recursive => exact ⟨_, _, rfl⟩
    | unreadable _ noneOpen => exact absurd isOpen (noneOpen candidate member)
    | opened _ _ noneOpen => exact absurd isOpen (noneOpen candidate member)

theorem failure_eq_unreadable_iff {unread : Text} {reason : FileError} :
    (resolver.handle tree (.inclusion path) inputs).failure = some (.unreadable unread reason) ↔
      (∀ candidate ∈ resolver.candidates tree path, ¬tree.IsOpen inputs candidate) ∧
        ∃ before behind, resolver.candidates tree path = before ++ unread :: behind ∧
          (∀ earlier ∈ before, ∃ text, tree.readText earlier = .ok text) ∧
          tree.readText unread = .error reason := by
  constructor
  · intro fails
    obtain ⟨opening, answer⟩ := exists_answer resolver tree path inputs
    rw [answer.handle] at fails
    cases answer with
    | notFound => exact nomatch fails
    | recursive => exact nomatch fails
    | unreadable split noneOpen holds unreadable =>
      cases fails
      exact ⟨noneOpen, _, _, split, holds.readable, unreadable⟩
    | opened => exact nomatch fails
  · rintro ⟨noneOpen, before, behind, split, readable, unreadable⟩
    obtain ⟨sources, rfl, holds⟩ := tree.exists_holds readable
    rw [(Answer.unreadable split noneOpen holds unreadable).handle]

theorem failure_eq_none_iff :
    (resolver.handle tree (.inclusion path) inputs).failure = none ↔
      resolver.candidates tree path ≠ [] ∧ ∀ candidate ∈ resolver.candidates tree path,
        ¬tree.IsOpen inputs candidate ∧ ∃ text, tree.readText candidate = .ok text := by
  constructor
  · intro succeeds
    obtain ⟨opening, answer⟩ := exists_answer resolver tree path inputs
    rw [answer.handle] at succeeds
    cases answer with
    | notFound => exact nomatch succeeds
    | recursive => exact nomatch succeeds
    | unreadable => exact nomatch succeeds
    | opened same more noneOpen holds =>
      refine ⟨by simpa [same] using more, fun candidate member => ⟨noneOpen candidate member, ?_⟩⟩
      exact holds.readable candidate (same ▸ member)
  · rintro ⟨more, each⟩
    obtain ⟨sources, same, holds⟩ := tree.exists_holds fun candidate member =>
      (each candidate member).2
    have some : sources ≠ [] := by simpa [same] using more
    rw [(Answer.opened same some (fun candidate member => (each candidate member).1) holds).handle]

/-- The answer to an include directive, for every file tree and every stack. No file is reported as
missing exactly if no search directory has a regular file under the path, and the report has the
path and the whole search list. A file is refused exactly if some candidate is open, and it is the
first such candidate; the chain has the names of the suspended inputs from the outermost on, the
current one, and the candidate. Otherwise the first candidate that is no text is reported, and if
all are, the directive succeeds. The candidates are the regular files under the path in the search
directories, or the first of these. An input whose name leads to nothing is the same as none. -/
theorem handle_exact (resolver : Resolver) (tree : FileTree) (path : Text) (inputs : Inputs) :
    let found := (resolver.searchPaths.map fun directory => Path.join directory path).filter
      tree.isFile
    let candidates := resolver.candidates tree path
    let failure := (resolver.handle tree (.inclusion path) inputs).failure
    (∀ asked searched, failure = some (.notFound asked searched) ↔
      (∀ directory ∈ resolver.searchPaths, tree.isFile (Path.join directory path) = false) ∧
        asked = path ∧ searched = resolver.searchPaths) ∧
    ((∃ refused chain, failure = some (.recursive refused chain)) ↔
      ∃ candidate ∈ candidates, tree.IsOpen inputs candidate) ∧
    (∀ refused chain, failure = some (.recursive refused chain) ↔
      ∃ before behind, candidates = before ++ refused :: behind ∧ tree.IsOpen inputs refused ∧
        (∀ earlier ∈ before, ¬tree.IsOpen inputs earlier) ∧
        chain = inputs.suspendedNames ++ [inputs.current.source, refused]) ∧
    (∀ unread reason, failure = some (.unreadable unread reason) ↔
      (∀ candidate ∈ candidates, ¬tree.IsOpen inputs candidate) ∧
        ∃ before behind, candidates = before ++ unread :: behind ∧
          (∀ earlier ∈ before, ∃ text, tree.readText earlier = .ok text) ∧
          tree.readText unread = .error .notText ∧ reason = .notText) ∧
    (failure = none ↔ candidates ≠ [] ∧ ∀ candidate ∈ candidates,
      ¬tree.IsOpen inputs candidate ∧ ∃ text, tree.readText candidate = .ok text) ∧
    (resolver.policy = .everyMatch → candidates = found) ∧
    (resolver.policy = .firstMatch → candidates = found.take 1) ∧
    ∀ name, tree.canonical? name = none → ∀ candidate, ¬tree.Same name candidate := by
  intro found candidates failure
  refine ⟨fun _ _ => failure_eq_notFound_iff, exists_recursive_iff, fun refused chain => ?_,
    fun unread reason => ?_, failure_eq_none_iff, ?_, ?_, ?_⟩
  · have names : inputs.activeNames ++ [refused] =
        inputs.suspendedNames ++ [inputs.current.source, refused] := by
      rw [Inputs.activeNames, List.append_assoc]
      rfl
    rw [← names]
    exact failure_eq_recursive_iff
  · rw [failure_eq_unreadable_iff]
    refine and_congr_right fun _ => exists_congr fun before => exists_congr fun behind =>
      and_congr_right fun split => and_congr_right fun _ => ?_
    constructor
    · intro fails
      have member : unread ∈ resolver.candidates tree path :=
        split ▸ List.mem_append_right before List.mem_cons_self
      obtain rfl := tree.eq_notText_of_isFile (isFile_of_mem_candidates member) fails
      exact ⟨fails, rfl⟩
    · rintro ⟨fails, rfl⟩
      exact fails
  · intro every
    show resolver.policy.select found = found
    rw [every]
    rfl
  · intro first
    show resolver.policy.select found = found.take 1
    rw [first]
    rfl
  · rintro name nowhere candidate ⟨location, leads, _⟩
    cases nowhere.symm.trans leads

/-- The last of three candidates is open, under another spelling of its name. It is refused though
the candidate in front of it is no text. -/
theorem handle_exact_open_behind_unreadable :
    let tree : FileTree := ⟨[], [([['a'], ['x']], .file "A".toUTF8),
      ([['b'], ['x']], .file ⟨#[0xff]⟩), ([['c'], ['x']], .file "C".toUTF8)]⟩
    let resolver : Resolver := ⟨[['a'], ['b'], ['c']], .everyMatch⟩
    let inputs := (Inputs.ofSource ⟨"c/./x".toList, []⟩).push ⟨['m'], []⟩
    (resolver.handle tree (.inclusion ['x']) inputs).failure =
        some (.recursive "c/x".toList ["c/./x".toList, ['m'], "c/x".toList]) ∧
      (∃ before behind, resolver.candidates tree ['x'] = before ++ "c/x".toList :: behind ∧
        tree.IsOpen inputs "c/x".toList ∧ ∀ earlier ∈ before, ¬tree.IsOpen inputs earlier) ∧
      resolver.candidates tree ['x'] = ["a/x".toList, "b/x".toList, "c/x".toList] := by
  intro tree resolver inputs
  have fails : (resolver.handle tree (.inclusion ['x']) inputs).failure =
      some (.recursive "c/x".toList ["c/./x".toList, ['m'], "c/x".toList]) := by decide
  obtain ⟨_, _, refusal, _, _, every, _⟩ := handle_exact resolver tree ['x'] inputs
  obtain ⟨before, behind, split, isOpen, passed, _⟩ := (refusal _ _).mp fails
  exact ⟨fails, ⟨before, behind, split, isOpen, passed⟩, (every rfl).trans (by decide)⟩

/-! ### What a directive leaves open -/

/-- A directive that finds nothing or is refused leaves the stack as it was. One with a candidate
that cannot be read has opened the candidates in front of that one and nothing else, so that it
leaves the stack as it was if that is the first, and always when only the first match is taken. An
inclusion that succeeds suspends the current input as it was, and above it all candidates but the
last, each at its beginning; the last candidate is current, on line one and column zero. -/
theorem pushAll_handle (resolver : Resolver) (tree : FileTree) (given : Directive)
    (inputs : Inputs) :
    let handled := resolver.handle tree given inputs
    let after := inputs.pushAll handled.opened
    (∀ asked searched, handled.failure = some (.notFound asked searched) → after = inputs) ∧
    (∀ refused chain, handled.failure = some (.recursive refused chain) → after = inputs) ∧
    (∀ unread reason, handled.failure = some (.unreadable unread reason) →
      ∃ path sources behind, given = .inclusion path ∧
        resolver.candidates tree path = sources.map Source.name ++ unread :: behind ∧
        tree.Holds sources ∧ after = inputs.pushAll sources ∧
        (resolver.policy = .firstMatch → after = inputs)) ∧
    ∀ path, given = .inclusion path → handled.failure = none →
      ∃ sources last, resolver.candidates tree path = sources.map Source.name ++ [last.name] ∧
        tree.Holds (sources ++ [last]) ∧
        after.suspended =
          (sources.map Input.ofSource).reverse ++ inputs.current :: inputs.suspended ∧
        after.current = .ofSource last ∧ after.current.line = 1 ∧ after.current.column = 0 := by
  intro handled after
  cases given with
  | language name => exact ⟨nofun, nofun, nofun, nofun⟩
  | inclusion path =>
    obtain ⟨opening, answer⟩ := exists_answer resolver tree path inputs
    have same : handled = opening := answer.handle
    clear_value handled
    subst same
    cases answer with
    | notFound => exact ⟨fun _ _ _ => rfl, nofun, nofun, fun _ _ succeeds => nomatch succeeds⟩
    | recursive => exact ⟨nofun, fun _ _ _ => rfl, nofun, fun _ _ succeeds => nomatch succeeds⟩
    | @unreadable sources behind unread reason split noneOpen holds _ =>
      refine ⟨nofun, nofun, fun _ _ same => ?_, fun _ _ succeeds => nomatch succeeds⟩
      cases same
      refine ⟨path, sources, behind, rfl, split, holds, rfl, fun first => ?_⟩
      -- Nothing stands in front of the only candidate.
      have atMostOne := length_candidates_le_one first tree path
      rw [split, List.length_append, List.length_map, List.length_cons] at atMostOne
      have nothing : sources = [] := List.length_eq_zero_iff.mp (by omega)
      show inputs.pushAll sources = inputs
      rw [nothing]
      rfl
    | @opened sources same more _ holds =>
      refine ⟨nofun, nofun, nofun, fun other given _ => ?_⟩
      obtain rfl := Directive.inclusion.inj given
      obtain ⟨front, last, rfl⟩ := (List.eq_nil_or_concat' sources).resolve_left more
      have stack : after = _ := inputs.pushAll_concat_eq front last
      rw [stack]
      exact ⟨front, last, by rw [same, List.map_append]; rfl, holds, rfl, rfl, rfl, rfl⟩

/-- The second of two candidates is no text. When every match is taken, the first stays open behind
the failure; when the first match is taken, nothing fails. -/
theorem pushAll_handle_unreadable_second :
    let tree : FileTree := ⟨[], [([['a'], ['x']], .file "A".toUTF8),
      ([['b'], ['x']], .file ⟨#[0xff]⟩)]⟩
    let every : Resolver := ⟨[['a'], ['b']], .everyMatch⟩
    let first : Resolver := ⟨[['a'], ['b']], .firstMatch⟩
    let inputs := Inputs.ofSource ⟨['m'], []⟩
    (every.handle tree (.inclusion ['x']) inputs).failure =
        some (.unreadable "b/x".toList .notText) ∧
      (∃ (sources : List Source) (behind : List Text),
        every.candidates tree ['x'] = sources.map Source.name ++ "b/x".toList :: behind ∧
        tree.Holds sources ∧
        inputs.pushAll (every.handle tree (.inclusion ['x']) inputs).opened =
          inputs.pushAll sources) ∧
      (first.handle tree (.inclusion ['x']) inputs).failure = none ∧
      ∃ (sources : List Source) (last : Source),
        first.candidates tree ['x'] = sources.map Source.name ++ [last.name] ∧
        (inputs.pushAll (first.handle tree (.inclusion ['x']) inputs).opened).current =
          .ofSource last := by
  intro tree every first inputs
  have fails : (every.handle tree (.inclusion ['x']) inputs).failure =
      some (.unreadable "b/x".toList .notText) := by decide
  have succeeds : (first.handle tree (.inclusion ['x']) inputs).failure = none := by decide
  obtain ⟨_, _, unread, _⟩ := pushAll_handle every tree (.inclusion ['x']) inputs
  obtain ⟨path, sources, behind, given, split, holds, same, _⟩ := unread _ _ fails
  obtain rfl := Directive.inclusion.inj given
  obtain ⟨_, _, _, opened⟩ := pushAll_handle first tree (.inclusion ['x']) inputs
  obtain ⟨front, last, names, _, _, current, _⟩ := opened _ rfl succeeds
  exact ⟨fails, ⟨sources, behind, split, holds, same⟩, succeeds, front, last, names, current⟩

/-- A directive that fails may leave files open that were not open before. -/
theorem pushAll_handle_ne :
    let tree : FileTree := ⟨[], [([['a'], ['x']], .file "A".toUTF8),
      ([['b'], ['x']], .file ⟨#[0xff]⟩)]⟩
    let resolver : Resolver := ⟨[['a'], ['b']], .everyMatch⟩
    let inputs := Inputs.ofSource ⟨['m'], []⟩
    let handled := resolver.handle tree (.inclusion ['x']) inputs
    handled.failure = some (.unreadable "b/x".toList .notText) ∧
      inputs.pushAll handled.opened ≠ inputs := by
  decide

end Resolver

end Literate
