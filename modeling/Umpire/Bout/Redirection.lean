import Umpire.Contest
import Umpire.Host.Order

/-! Redirection: which of a side's streams are put into files, in the order in which that is done, and for which
contestants it can be. -/

namespace Umpire.Contestant

/-- The file that a stream is given. -/
def file? (contestant : Contestant) : Stream → Option Bytes
  | .stdin => contestant.stdin
  | .stdout => contestant.stdout
  | .stderr => contestant.stderr

/-- The redirect of a stream to a file; the host takes no path with a zero byte. -/
def redirect (stream : Stream) (path : Bytes) : Except Fault Host.Redirect :=
  if Bytes.hasNul path then .error (.nulInPath path) else .ok ⟨stream, path⟩

/-- The redirects of the streams that are given files. -/
def redirects (contestant : Contestant) : Except Fault (List Host.Redirect) :=
  (Stream.all.filterMap fun stream => (contestant.file? stream).map (redirect stream)).mapM id

/-- The redirects of the files that the host can take. -/
def plan (contestant : Contestant) : List Host.Redirect :=
  Stream.all.filterMap fun stream => (contestant.file? stream).map (Host.Redirect.mk stream)

/-- No file's path holds a zero byte. -/
def Clean (contestant : Contestant) : Prop :=
  ∀ stream path, contestant.file? stream = some path → Bytes.hasNul path = false

/-- A stream is redirected exactly if it is given a file. -/
theorem mem_plan {contestant : Contestant} {redirect : Host.Redirect} :
    redirect ∈ contestant.plan ↔ contestant.file? redirect.stream = some redirect.path := by
  simp only [plan, List.mem_filterMap, Option.map_eq_some_iff]
  constructor
  · rintro ⟨stream, -, path, given, rfl⟩
    exact given
  · intro given
    refine ⟨redirect.stream, ?_, redirect.path, given, rfl⟩
    cases redirect.stream <;> decide

/-- Some redirect is of a stream exactly if the stream is given a file. -/
theorem exists_mem_plan {contestant : Contestant} {stream : Stream} :
    (∃ redirect ∈ contestant.plan, redirect.stream = stream) ↔ contestant.file? stream ≠ none := by
  rw [Option.ne_none_iff_exists']
  constructor
  · rintro ⟨redirect, member, rfl⟩
    exact ⟨redirect.path, mem_plan.mp member⟩
  · rintro ⟨path, given⟩
    exact ⟨⟨stream, path⟩, mem_plan.mpr given, rfl⟩

/-- Results that all succeed succeed together. -/
theorem mapM_id_ok {α : Type} (values : List α) :
    (values.map (Except.ok (ε := Fault))).mapM id = .ok values := by
  induction values with
  | nil => rfl
  | cons value rest ih =>
    rw [List.map_cons, List.mapM_cons, ih]
    rfl

/-- Of results that succeed together each one does. -/
theorem ok_of_mapM_id {α : Type} {results : List (Except Fault α)} {values : List α}
    (succeeded : results.mapM id = .ok values) {result : Except Fault α} (member : result ∈ results) :
    ∃ value, result = .ok value := by
  induction results generalizing values with
  | nil => cases member
  | cons first rest ih =>
    rw [List.mapM_cons] at succeeded
    cases first with
    | error fault => cases succeeded
    | ok value =>
      cases others : rest.mapM id with
      | error fault =>
        rw [others] at succeeded
        cases succeeded
      | ok known =>
        rcases List.mem_cons.mp member with rfl | later
        · exact ⟨value, rfl⟩
        · exact ih others later

/-- Clean paths come to the redirects of the files. -/
theorem redirects_of_clean {contestant : Contestant} (clean : contestant.Clean) :
    contestant.redirects = .ok contestant.plan := by
  have taken : (fun stream => (contestant.file? stream).map (redirect stream)) =
      fun stream => ((contestant.file? stream).map (Host.Redirect.mk stream)).map Except.ok := by
    funext stream
    cases given : contestant.file? stream with
    | none => rfl
    | some path =>
      simp only [Option.map_some, redirect, clean stream path given, Bool.false_eq_true, if_false]
  -- No path is refused, so the results are the planned redirects one by one.
  rw [redirects, taken, ← List.map_filterMap]
  exact mapM_id_ok contestant.plan

/-- A contestant has redirects exactly if its paths are clean, and they are those of its files. -/
theorem redirects_eq_ok_iff {contestant : Contestant} {redirects : List Host.Redirect} :
    contestant.redirects = .ok redirects ↔ contestant.Clean ∧ redirects = contestant.plan := by
  constructor
  · intro succeeded
    have clean : contestant.Clean := by
      intro stream path given
      -- A path with a zero byte would be a fault among the results.
      have member : redirect stream path ∈
          Stream.all.filterMap fun stream => (contestant.file? stream).map (redirect stream) :=
        List.mem_filterMap.mpr ⟨stream, by cases stream <;> decide, by rw [given, Option.map_some]⟩
      obtain ⟨taken, same⟩ := ok_of_mapM_id succeeded member
      cases dirty : Bytes.hasNul path with
      | false => rfl
      | true =>
        rw [redirect, dirty, if_pos rfl] at same
        cases same
    exact ⟨clean, Except.ok.inj (succeeded.symm.trans (redirects_of_clean clean))⟩
  · rintro ⟨clean, rfl⟩
    exact redirects_of_clean clean

end Umpire.Contestant
