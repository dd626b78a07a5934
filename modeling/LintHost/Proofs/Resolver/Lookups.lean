import LintHost.Proofs.Resolver.Memory

/-!
# Lookups in flight

A lookup of the nearest configuration file is three steps: it asks the memory, then, if nothing is
remembered, searches the file system, and last puts what it found into the memory. Other lookups
go on between these steps, the file system changes, and the memory is cleared. A list of moves is
an interleaving of all that (`LintHost.ConcurrentFinder.run`), for any number of calls; a call that
is alone makes the three steps of `LintHost.Finder.find` (`LintHost.ConcurrentFinder.run_find`).

After the memory has been cleared, a call that begins is answered from the file system as it is,
**as long as no call is about to put into the memory what it found in an older file system**
(`LintHost.ConcurrentFinder.returned_after_invalidate`). The invariant of the moves after the
clearing is `LintHost.ConcurrentFinder.Current`: what is remembered, what is on its way into the
memory and what is returned are all found by searches of the same files.

The condition is needed. Clearing the memory does not reach a call that has searched and not yet
put away what it found: it does so afterwards, and calls that begin later are answered with it
(`LintHost.ConcurrentFinder.not_forall_returned`).
-/

namespace LintHost

/-- Where a call for the nearest configuration file of a directory stands. -/
inductive LookupCall where
  /-- It has begun. -/
  | started (directory : Path)
  /-- Nothing is remembered, so it is to search. -/
  | missed (directory : Path)
  /-- It has searched, and is to put what it found into the memory. -/
  | searched (directory : Path) (found : Option Path)
  /-- It has returned what was found. -/
  | returned (directory : Path) (found : Option Path)
deriving DecidableEq

/-- The directory of a call. -/
def LookupCall.directory : LookupCall → Path
  | .started directory | .missed directory | .searched directory _ | .returned directory _ =>
    directory

/-- A finder, the file system, and the calls that have begun, in the order in which they did. -/
structure ConcurrentFinder where
  finder : Finder := {}
  files : FileSystem := {}
  calls : List LookupCall := []

/-- What can happen next. A number tells which of the calls makes its step. -/
inductive LookupMove where
  | begin (directory : Path)
  | lookUp (call : Nat)
  | search (call : Nat)
  | insert (call : Nat)
  | files (now : FileSystem)
  | invalidate

/-- A move that changes no file that a search looks at. -/
def LookupMove.Keeps (names : List String) (files : FileSystem) : LookupMove → Prop
  | .files now => ∀ directory, ∀ place ∈ Finder.candidates names directory,
    now.isFile place = files.isFile place
  | _ => True

namespace ConcurrentFinder

/-- The finder with a call that stands elsewhere. -/
def withCall (w : ConcurrentFinder) (call : Nat) (now : LookupCall) : ConcurrentFinder :=
  { w with calls := w.calls.set call now }

/-- What is there after a move. One that asks a call for another step than its next does
nothing. -/
def step (w : ConcurrentFinder) : LookupMove → ConcurrentFinder
  | .begin directory => { w with calls := w.calls ++ [.started directory] }
  | .lookUp call =>
    match w.calls[call]? with
    | some (.started directory) =>
      match w.finder.known? directory with
      | some found => w.withCall call (.returned directory found)
      | none => w.withCall call (.missed directory)
    | _ => w
  | .search call =>
    match w.calls[call]? with
    | some (.missed directory) =>
      w.withCall call (.searched directory (w.finder.search w.files directory))
    | _ => w
  | .insert call =>
    match w.calls[call]? with
    | some (.searched directory found) =>
      ({ w with finder := w.finder.remember directory found }).withCall call
        (.returned directory found)
    | _ => w
  | .files now => { w with files := now }
  | .invalidate => { w with finder := w.finder.invalidate }

/-- What is there after some moves. -/
def run (w : ConcurrentFinder) (moves : List LookupMove) : ConcurrentFinder :=
  moves.foldl step w

/-- A finder that has just been made. -/
def start (names : List String) (files : FileSystem) : ConcurrentFinder :=
  { finder := .fresh names, files }

/-- **A call that is alone** does what a lookup in one piece does. -/
theorem run_find (w : ConcurrentFinder) (directory : Path) :
    let call := w.calls.length
    let after := w.run [.begin directory, .lookUp call, .search call, .insert call]
    after.calls = w.calls ++ [.returned directory (w.finder.find w.files directory).1] ∧
      after.finder = (w.finder.find w.files directory).2 := by
  intro call after
  have hset : ∀ old now : LookupCall, (w.calls ++ [old]).set call now = w.calls ++ [now] := by
    intro old now
    rw [List.set_append_right _ _ (Nat.le_refl _), Nat.sub_self, List.set_cons_zero]
  have hget : ∀ now : LookupCall, (w.calls ++ [now])[call]? = some now := fun now =>
    List.getElem?_concat_length
  simp only [after, run, List.foldl_cons, List.foldl_nil, step, hget, Finder.find_eq]
  cases hknown : w.finder.known? directory with
  | some found => simp [withCall, hset, hget]
  | none => simp [withCall, hset, hget]

/-! ### One move -/

/-- What a move can do. -/
inductive Effect (w : ConcurrentFinder) : LookupMove → ConcurrentFinder → Prop
  | begun (directory : Path) :
      Effect w (.begin directory) { w with calls := w.calls ++ [.started directory] }
  | recalled {call : Nat} {directory : Path} {found : Option Path}
      (hcall : w.calls[call]? = some (.started directory))
      (hknown : w.finder.known? directory = some found) :
      Effect w (.lookUp call) (w.withCall call (.returned directory found))
  | missed {call : Nat} {directory : Path}
      (hcall : w.calls[call]? = some (.started directory)) :
      Effect w (.lookUp call) (w.withCall call (.missed directory))
  | searched {call : Nat} {directory : Path}
      (hcall : w.calls[call]? = some (.missed directory)) :
      Effect w (.search call)
        (w.withCall call (.searched directory (w.finder.search w.files directory)))
  | inserted {call : Nat} {directory : Path} {found : Option Path}
      (hcall : w.calls[call]? = some (.searched directory found)) :
      Effect w (.insert call)
        (({ w with finder := w.finder.remember directory found }).withCall call
          (.returned directory found))
  | changed (now : FileSystem) : Effect w (.files now) { w with files := now }
  | cleared : Effect w .invalidate { w with finder := w.finder.invalidate }
  | idle (move : LookupMove) : Effect w move w

theorem effect_step (w : ConcurrentFinder) (move : LookupMove) : Effect w move (w.step move) := by
  cases move with
  | begin directory => exact .begun directory
  | lookUp call =>
    rw [step]
    split
    · next directory hcall =>
      split
      · next found hknown => exact .recalled hcall hknown
      · exact .missed hcall
    · exact .idle _
  | search call =>
    rw [step]
    split
    · next directory hcall => exact .searched hcall
    · exact .idle _
  | insert call =>
    rw [step]
    split
    · next directory found hcall => exact .inserted hcall
    · exact .idle _
  | files now => exact .changed now
  | invalidate => exact .cleared

/-! ### After the memory has been cleared -/

/-- The directories of the calls that have begun. -/
def directories (w : ConcurrentFinder) : List Path :=
  w.calls.map LookupCall.directory

/-- What was found is what a search of the files finds for a directory of one of the calls, from
the way in which that call spelled it. -/
def IsFound (names : List String) (files : FileSystem) (w : ConcurrentFinder) (directory : Path)
    (found : Option Path) : Prop :=
  ∃ spelled ∈ w.directories, spelled.components = directory.components ∧
    found = (Finder.fresh names).search files spelled

/-- **Everything is found in the same files**: what is remembered, what is on its way into the
memory, and what is returned to calls that began after the first ones. -/
structure Current (names : List String) (files : FileSystem) (first : Nat)
    (w : ConcurrentFinder) : Prop where
  finder_names : w.finder.names = names
  places : ∀ directory, ∀ place ∈ Finder.candidates names directory,
    w.files.isFile place = files.isFile place
  known : ∀ directory found, w.finder.known? directory = some found →
    IsFound names files w directory found
  searched : ∀ directory found, .searched directory found ∈ w.calls →
    found = (Finder.fresh names).search files directory
  returned : ∀ call directory found, first ≤ call →
    w.calls[call]? = some (.returned directory found) → IsFound names files w directory found

variable {names : List String} {files : FileSystem} {first : Nat} {w : ConcurrentFinder}

theorem directories_withCall {call : Nat} {old : LookupCall} (now : LookupCall)
    (hcall : w.calls[call]? = some old) (h : now.directory = old.directory) :
    (w.withCall call now).directories = w.directories := by
  refine List.ext_getElem? fun n => ?_
  simp only [directories, withCall, List.getElem?_map, List.getElem?_set]
  by_cases hn : call = n
  · subst hn
    obtain ⟨hlt, -⟩ := List.getElem?_eq_some_iff.mp hcall
    rw [if_pos rfl, if_pos hlt, hcall, Option.map_some, Option.map_some, h]
  · rw [if_neg hn]

theorem mem_directories_of_getElem? {call : Nat} {now : LookupCall}
    (hcall : w.calls[call]? = some now) : now.directory ∈ w.directories :=
  List.mem_map_of_mem (List.mem_of_getElem? hcall)

namespace Current

/-- **A call moves on**, and what it has found now is found in the files. -/
theorem withCall (h : Current names files first w) {call : Nat} {old now : LookupCall}
    (hcall : w.calls[call]? = some old) (hdirectory : now.directory = old.directory)
    (hsearched : ∀ directory found, now = .searched directory found →
      found = (Finder.fresh names).search files directory)
    (hreturned : ∀ directory found, now = .returned directory found →
      IsFound names files w directory found) :
    Current names files first (w.withCall call now) := by
  -- The other calls stay as they are, and none of the directories has changed.
  have hkeep : ∀ {directory : Path} {found : Option Path},
      IsFound names files w directory found →
        IsFound names files (w.withCall call now) directory found := by
    intro directory found hfound
    rwa [IsFound, directories_withCall now hcall hdirectory]
  refine ⟨h.finder_names, h.places, fun directory found hknown =>
    hkeep (h.known directory found hknown), fun directory found hmem => ?_,
    fun n directory found hfirst hn => hkeep ?_⟩
  · rcases List.mem_or_eq_of_mem_set hmem with hmem | heq
    · exact h.searched directory found hmem
    · exact hsearched directory found heq.symm
  · rw [ConcurrentFinder.withCall, List.getElem?_set] at hn
    split at hn
    · split at hn
      · exact hreturned directory found (Option.some.inj hn)
      · simp at hn
    · exact h.returned n directory found hfirst hn

theorem search_eq (h : Current names files first w) (directory : Path) :
    w.finder.search w.files directory = (Finder.fresh names).search files directory := by
  have hnames : w.finder.names = (Finder.fresh names).names := h.finder_names
  rw [Finder.search_congr hnames]
  exact Finder.search_congr_files (h.places directory)

/-- A call that has searched has found what a search of the files finds. -/
theorem isFound_of_searched (h : Current names files first w) {call : Nat} {directory : Path}
    {found : Option Path} (hcall : w.calls[call]? = some (.searched directory found)) {other : Path}
    (hsame : directory.components = other.components) : IsFound names files w other found :=
  ⟨directory, mem_directories_of_getElem? hcall, hsame,
    h.searched directory found (List.mem_of_getElem? hcall)⟩

/-- Another call begins. -/
theorem begun (h : Current names files first w) (looked : Path) :
    Current names files first { w with calls := w.calls ++ [.started looked] } := by
  have hkeep : ∀ {directory : Path} {found : Option Path},
      IsFound names files w directory found →
        IsFound names files { w with calls := w.calls ++ [.started looked] } directory found := by
    rintro directory found ⟨spelled, hmem, hfound⟩
    refine ⟨spelled, ?_, hfound⟩
    rw [directories, List.map_append]
    exact List.mem_append_left _ hmem
  refine ⟨h.finder_names, h.places, fun directory found hknown =>
    hkeep (h.known directory found hknown), fun directory found hmem => ?_,
    fun n directory found hfirst hn => hkeep ?_⟩
  · rcases List.mem_append.mp hmem with hmem | hmem
    · exact h.searched directory found hmem
    · simp at hmem
  · rw [List.getElem?_append] at hn
    split at hn
    · exact h.returned n directory found hfirst hn
    · rw [List.getElem?_singleton] at hn
      split at hn <;> simp at hn

/-- What a call has searched for goes into the memory. -/
theorem remember (h : Current names files first w) {call : Nat} {looked : Path}
    {answer : Option Path} (hcall : w.calls[call]? = some (.searched looked answer)) :
    Current names files first { w with finder := w.finder.remember looked answer } := by
  refine ⟨h.finder_names, h.places, fun directory found hknown => ?_, h.searched, h.returned⟩
  rw [Finder.known?_remember] at hknown
  split at hknown
  · next hsame =>
    obtain rfl := Option.some.inj hknown
    exact h.isFound_of_searched hcall (Path.same_iff.mp hsame)
  · exact h.known directory found hknown

/-- **Every move keeps this**, if it changes no file that a search looks at. -/
theorem step (h : Current names files first w) {move : LookupMove}
    (hkeeps : move.Keeps names files) : Current names files first (w.step move) := by
  have heffect := effect_step w move
  generalize w.step move = w' at heffect
  cases heffect with
  | begun looked => exact h.begun looked
  | recalled hcall hknown =>
    refine h.withCall hcall rfl nofun fun directory found hnow => ?_
    obtain ⟨rfl, rfl⟩ := LookupCall.returned.inj hnow
    exact h.known _ _ hknown
  | missed hcall => exact h.withCall hcall rfl nofun nofun
  | searched hcall =>
    refine h.withCall hcall rfl (fun directory found hnow => ?_) nofun
    obtain ⟨rfl, rfl⟩ := LookupCall.searched.inj hnow
    exact h.search_eq _
  | inserted hcall =>
    refine (h.remember hcall).withCall hcall rfl nofun fun directory found hnow => ?_
    obtain ⟨rfl, rfl⟩ := LookupCall.returned.inj hnow
    exact h.isFound_of_searched hcall rfl
  | changed now => exact ⟨h.finder_names, hkeeps, h.known, h.searched, h.returned⟩
  | cleared => exact ⟨h.finder_names, h.places, nofun, h.searched, h.returned⟩
  | idle => exact h

theorem run (h : Current names files first w) {moves : List LookupMove}
    (hkeeps : ∀ move ∈ moves, move.Keeps names files) :
    Current names files first (w.run moves) := by
  induction moves generalizing w with
  | nil => exact h
  | cons move moves ih =>
    exact ih (h.step (hkeeps move List.mem_cons_self))
      fun m hm => hkeeps m (List.mem_cons_of_mem _ hm)

end Current

theorem finder_names_run (w : ConcurrentFinder) (moves : List LookupMove) :
    (w.run moves).finder.names = w.finder.names := by
  induction moves generalizing w with
  | nil => rfl
  | cons move moves ih =>
    have hstep : (w.step move).finder.names = w.finder.names := by
      have heffect := effect_step w move
      generalize w.step move = w' at heffect
      cases heffect <;> rfl
    rw [run, List.foldl_cons, ← run, ih, hstep]

/-- **After the memory has been cleared**, a call that begins is answered from the file system as
it is, as long as what other calls are about to put into the memory has been found in it too. -/
theorem returned_after_invalidate (names : List String) (files : FileSystem)
    (before after : List LookupMove) :
    let cleared := (start names files).run before
    let w := (cleared.step .invalidate).run after
    let search := (Finder.fresh names).search
    (∀ directory found, .searched directory found ∈ cleared.calls →
      found = search cleared.files directory) →
    (∀ move ∈ after, move.Keeps names cleared.files) →
    ∀ call directory found, cleared.calls.length ≤ call →
      w.calls[call]? = some (.returned directory found) →
      (∃ spelled ∈ w.directories, spelled.components = directory.components ∧
        found = search w.files spelled) ∧
      ((∀ spelled ∈ w.directories, spelled.same directory = true →
          Finder.Interchangeable names spelled directory) →
        found.map Path.components = (search w.files directory).map Path.components) := by
  intro cleared w search hflight hkeeps call directory found hcall hreturned
  have hstart : Current names cleared.files cleared.calls.length (cleared.step .invalidate) :=
    { finder_names := finder_names_run (start names files) before
      places := fun _ _ _ => rfl
      known := nofun
      searched := hflight
      returned := fun n directory found hfirst hn => by
        rw [show (cleared.step .invalidate).calls = cleared.calls from rfl,
          List.getElem?_eq_none hfirst] at hn
        simp at hn }
  have hcurrent : Current names cleared.files cleared.calls.length w := hstart.run hkeeps
  obtain ⟨spelled, hmem, hsame, hfound⟩ :=
    hcurrent.returned call directory found hcall hreturned
  have hnow : found = search w.files spelled :=
    hfound.trans (Finder.search_congr_files (hcurrent.places spelled)).symm
  refine ⟨⟨spelled, hmem, hsame, hnow⟩, fun hswap => ?_⟩
  rw [hnow]
  exact Finder.components_of_rel (Finder.search_rel (Finder.fresh names) w.files hsame
    (hswap spelled hmem (Path.same_iff.mpr hsame)))

/-- A call that began before is still to put away what it found when the memory is cleared, in the
file system as it is then; what was remembered from an older one is forgotten. -/
theorem returned_after_invalidate_overlapping :
    let before := [.begin ⟨"a"⟩, .lookUp 0, .search 0, .insert 0, .files Resolver.oneConfigFile,
      .begin ⟨"b"⟩, .lookUp 1, .search 1]
    let after := [.begin ⟨"a/"⟩, .lookUp 2, .insert 1, .search 2, .insert 2, .begin ⟨"a"⟩,
      .lookUp 3]
    let w := (((start configFileNames {}).run before).step .invalidate).run after
    w.calls[3]? = some (.returned ⟨"a"⟩ (some ⟨"a/mypy.ini"⟩)) ∧
      (∃ spelled ∈ w.directories, spelled.components = (Path.mk "a").components ∧
        some ⟨"a/mypy.ini"⟩ = (Finder.fresh configFileNames).search w.files spelled) ∧
      (some (Path.mk "a/mypy.ini")).map Path.components =
        ((Finder.fresh configFileNames).search w.files ⟨"a"⟩).map Path.components := by
  intro before after w
  have hcalls : w.calls[3]? = some (.returned ⟨"a"⟩ (some ⟨"a/mypy.ini"⟩)) := by
    decide +kernel
  have hflight : ∀ directory found,
      .searched directory found ∈ ((start configFileNames {}).run before).calls →
        found = (Finder.fresh configFileNames).search
          ((start configFileNames {}).run before).files directory := by
    intro directory found hmem
    have hcleared : ((start configFileNames {}).run before).calls =
        [.returned ⟨"a"⟩ none, .searched ⟨"b"⟩ none] := by
      decide +kernel
    rw [hcleared] at hmem
    obtain ⟨rfl, rfl⟩ : directory = ⟨"b"⟩ ∧ found = none := by simpa using hmem
    decide +kernel
  have hkeeps : ∀ move ∈ after, move.Keeps configFileNames
      ((start configFileNames {}).run before).files := by
    simp [after, LookupMove.Keeps]
  have hshort : ∀ directory ∈ w.directories, Finder.Short configFileNames directory := by
    unfold Finder.Short
    decide +kernel
  obtain ⟨hspelled, hsame⟩ := returned_after_invalidate configFileNames {} before after hflight
    hkeeps 3 ⟨"a"⟩ (some ⟨"a/mypy.ini"⟩) (by decide +kernel) hcalls
  exact ⟨hcalls, hspelled, hsame fun spelled hmem _ =>
    .inr ⟨hshort spelled hmem, hshort _ (by decide +kernel)⟩⟩

/-- **Clearing the memory is undone by a call in flight**: one that has searched before a
configuration file was made puts what it found into the memory after it has been cleared, and a
call that begins still later is answered with it. It makes no difference here how the directory is
spelled. -/
theorem not_forall_returned :
    ¬∀ (names : List String) (files : FileSystem) (before after : List LookupMove),
      let cleared := (start names files).run before
      let w := (cleared.step .invalidate).run after
      (∀ move ∈ after, move.Keeps names cleared.files) →
      ∀ call directory found, cleared.calls.length ≤ call →
        w.calls[call]? = some (.returned directory found) →
        (∀ spelled ∈ w.directories, spelled = directory) →
        found.map Path.components =
          ((Finder.fresh names).search w.files directory).map Path.components := by
  intro hall
  have hsame := hall configFileNames {}
    [.begin ⟨"a"⟩, .lookUp 0, .search 0, .files Resolver.oneConfigFile]
    [.insert 0, .begin ⟨"a"⟩, .lookUp 1] (by simp [LookupMove.Keeps]) 1 ⟨"a"⟩ none
    (by decide +kernel) (by decide +kernel) (by decide +kernel)
  revert hsame
  decide +kernel

end ConcurrentFinder

end LintHost
