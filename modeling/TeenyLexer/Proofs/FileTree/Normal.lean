import Mathlib
import TeenyLexer.FileTree.Basic

/-! # Files under the normal form of a path

A path that leads to a file leads to it in normal form too. What the normal form leaves out leads
nowhere, and the form is no longer than the path.
-/

namespace TeenyLexer

namespace Path

theorem segments_eq_splitOn (path : List Char) : segments path = path.splitOn '/' := by
  induction path with
  | nil => rfl
  | cons c rest ih =>
    rw [segments, List.splitOn_cons_eq_if_modifyHead, ← ih]
    simp only [beq_iff_eq]
    split
    · rfl
    · cases hRest : segments rest with
      | nil => exact absurd (ih.symm.trans hRest) (List.splitOn_ne_nil '/' rest)
      | cons segment more => rfl

theorem slash_not_mem_of_mem_segments {path segment : List Char} (h : segment ∈ segments path) :
    '/' ∉ segment := by
  induction path generalizing segment with
  | nil =>
    rw [List.mem_singleton.mp h]
    exact List.not_mem_nil
  | cons c rest ih =>
    rw [segments] at h
    split at h
    · rcases List.mem_cons.mp h with rfl | hMore
      · exact List.not_mem_nil
      · exact ih hMore
    next hc =>
      split at h
      · rw [List.mem_singleton.mp h]
        exact List.not_mem_cons_of_ne_of_not_mem (Ne.symm hc) List.not_mem_nil
      next first more hRest =>
        rw [hRest] at ih
        rcases List.mem_cons.mp h with rfl | hMore
        · exact List.not_mem_cons_of_ne_of_not_mem (Ne.symm hc) (ih List.mem_cons_self)
        · exact ih (List.mem_cons_of_mem _ hMore)

theorem intercalate_sublist (separator : List Char) {parts parts' : List (List Char)}
    (h : parts.Sublist parts') :
    (separator.intercalate parts).Sublist (separator.intercalate parts') := by
  induction h with
  | slnil => exact List.Sublist.refl _
  | @cons parts parts' part hRest ih =>
    cases parts' with
    | nil =>
      rw [List.sublist_nil.mp hRest]
      exact List.nil_sublist _
    | cons next more =>
      rw [List.intercalate_cons_cons]
      exact ih.trans (List.sublist_append_right _ _)
  | @cons_cons parts parts' part hRest ih =>
    cases parts' with
    | nil => rw [List.sublist_nil.mp hRest]
    | cons next' more' =>
      rw [List.intercalate_cons_cons]
      cases parts with
      | nil =>
        rw [List.intercalate_singleton, List.append_assoc]
        exact List.sublist_append_left _ _
      | cons next more =>
        rw [List.intercalate_cons_cons]
        exact ih.append_left _

theorem utf8ByteSize_le_of_sublist {s t : String} (h : s.toList.Sublist t.toList) :
    s.utf8ByteSize ≤ t.utf8ByteSize := by
  have hLength := String.utf8Len_le_of_sublist h
  rwa [← String.utf8ByteSize_ofList, ← String.utf8ByteSize_ofList, String.ofList_toList,
    String.ofList_toList] at hLength

/-- The segments that lead somewhere. -/
def kept (path : List Char) : List (List Char) :=
  (segments path).filter fun segment => !isIdle segment

theorem ne_nil_of_mem_kept {path segment : List Char} (h : segment ∈ kept path) : segment ≠ [] := by
  rintro rfl
  cases (List.mem_filter.mp h).2

theorem segments_intercalate_kept {path : List Char} (h : kept path ≠ []) :
    segments (['/'].intercalate (kept path)) = kept path := by
  rw [segments_eq_splitOn]
  apply List.splitOn_intercalate
  · intro segment hSegment
    exact slash_not_mem_of_mem_segments (List.mem_of_mem_filter hSegment)
  · exact h

theorem intercalate_kept_sublist (path : List Char) :
    (['/'].intercalate (kept path)).Sublist path := by
  have hAll : ['/'].intercalate (segments path) = path := by
    rw [segments_eq_splitOn, List.intercalate_splitOn]
  have hKept : (kept path).Sublist (segments path) := List.filter_sublist
  have hSublist := intercalate_sublist ['/'] hKept
  rwa [hAll] at hSublist

theorem head_intercalate_kept {path : List Char} (h : kept path ≠ []) :
    ∃ c rest, ['/'].intercalate (kept path) = c :: rest ∧ c ≠ '/' := by
  obtain ⟨first, more, hKept⟩ := List.exists_cons_of_ne_nil h
  have hFirst : first ∈ kept path := by rw [hKept]; exact List.mem_cons_self
  obtain ⟨c, rest, rfl⟩ := List.exists_cons_of_ne_nil (ne_nil_of_mem_kept hFirst)
  have hc : c ≠ '/' :=
    (List.ne_of_not_mem_cons (slash_not_mem_of_mem_segments (List.mem_of_mem_filter hFirst))).symm
  rw [hKept]
  cases more with
  | nil => exact ⟨c, rest, List.intercalate_singleton, hc⟩
  | cons next more => exact ⟨c, _, List.intercalate_cons_cons, hc⟩

theorem normalizeChars_of_head_ne {c : Char} {rest : List Char} (hc : c ≠ '/')
    (h : kept (c :: rest) ≠ []) :
    normalizeChars (c :: rest) = ['/'].intercalate (kept (c :: rest)) := by
  have hRoot : root (c :: rest) = [] := by
    rw [root, List.takeWhile_cons_of_neg (by simpa using hc)]
    rfl
  obtain ⟨c', rest', hText, -⟩ := head_intercalate_kept h
  rw [normalizeChars, hRoot, List.nil_append, ← kept, hText]

end Path

namespace FileTree

open TeenyLexer.Path

variable {t : FileTree} {place : Place} {bytes : List UInt8}

theorem enter_of_isIdle {segment : List Char} (h : isIdle segment = true) (place : Place) :
    enter segment place = some place := by
  cases place with
  | within segments => rw [enter, if_pos h]
  | outside => rw [enter, h, Bool.true_or, if_pos rfl]

theorem follow_cons_eq_file_iff {segment : List Char} {more : List (List Char)} :
    t.follow place (segment :: more) = .file bytes ↔
      t.look place = .directory ∧ (String.ofList segment).utf8ByteSize ≤ maxNameBytes ∧
        ∃ next, enter segment place = some next ∧ t.follow next more = .file bytes := by
  rw [follow]
  cases t.look place with
  | directory =>
    by_cases hSize : (String.ofList segment).utf8ByteSize > maxNameBytes
    · simp [hSize]
    · cases hEnter : enter segment place with
      | none => simp [hSize]
      | some next => simp [hSize, Nat.le_of_not_lt hSize]
  | _ => simp

theorem follow_outside_ne_file (parts : List (List Char)) :
    t.follow .outside parts ≠ .file bytes := by
  induction parts with
  | nil => exact nofun
  | cons segment more ih =>
    intro h
    obtain ⟨-, -, next, hEnter, hMore⟩ := follow_cons_eq_file_iff.mp h
    rw [enter] at hEnter
    split at hEnter
    · cases hEnter
      exact ih hMore
    · cases hEnter

theorem follow_kept {parts : List (List Char)} (h : t.follow place parts = .file bytes) :
    t.follow place (parts.filter fun segment => !isIdle segment) = .file bytes := by
  induction parts generalizing place with
  | nil => exact h
  | cons segment more ih =>
    obtain ⟨hLook, hSize, next, hEnter, hMore⟩ := follow_cons_eq_file_iff.mp h
    cases hIdle : isIdle segment with
    | true =>
      rw [enter_of_isIdle hIdle] at hEnter
      cases hEnter
      rw [List.filter_cons_of_neg (by simp [hIdle])]
      exact ih hMore
    | false =>
      rw [List.filter_cons_of_pos (by simp [hIdle])]
      exact follow_cons_eq_file_iff.mpr ⟨hLook, hSize, next, hEnter, ih hMore⟩

theorem find_eq_file_iff {path : String} :
    t.find path = .file bytes ↔ path.utf8ByteSize ≤ maxPathBytes ∧
      (∃ c rest, path.toList = c :: rest ∧ c ≠ '/') ∧
        t.follow (.within []) (segments path.toList) = .file bytes := by
  rw [find]
  by_cases hSize : path.utf8ByteSize > maxPathBytes
  · simp [hSize]
  rw [if_neg hSize]
  split
  next hPath => simp [hPath]
  next rest hPath => simp [hPath, follow_outside_ne_file]
  next hNil hSlash =>
    have hHead : ∃ c rest, path.toList = c :: rest ∧ c ≠ '/' := by
      obtain ⟨c, rest, hPath⟩ := List.exists_cons_of_ne_nil hNil
      refine ⟨c, rest, hPath, ?_⟩
      rintro rfl
      exact hSlash rest hPath
    simp only [Nat.le_of_not_lt hSize, hHead, true_and]

theorem kept_ne_nil {path : List Char} (h : t.follow (.within []) (segments path) = .file bytes) :
    kept path ≠ [] := by
  intro hKept
  have hNil := follow_kept h
  rw [← kept, hKept, follow] at hNil
  cases hParts : segments path with
  | nil =>
    rw [segments_eq_splitOn] at hParts
    exact List.splitOn_ne_nil _ _ hParts
  | cons segment more =>
    rw [hParts] at h
    cases hNil.symm.trans (follow_cons_eq_file_iff.mp h).1

end FileTree

/-- A path that leads to a file, as it is and in normal form. -/
structure Path.Opens (find : String → Entry) (path : String) (bytes : List UInt8) : Prop where
  typed : find path = .file bytes
  normal : find (Path.normalize path) = .file bytes

theorem FileTree.opens {t : FileTree} {path : String} {bytes : List UInt8}
    (h : t.find path = .file bytes) : Path.Opens t.find path bytes := by
  refine ⟨h, ?_⟩
  obtain ⟨hSize, ⟨c, rest, hPath, hc⟩, hFollow⟩ := find_eq_file_iff.mp h
  have hKept : Path.kept path.toList ≠ [] := kept_ne_nil hFollow
  have hNormal : (Path.normalize path).toList = ['/'].intercalate (Path.kept path.toList) := by
    rw [hPath] at hKept ⊢
    rw [Path.normalize, String.toList_ofList, hPath, Path.normalizeChars_of_head_ne hc hKept]
  apply find_eq_file_iff.mpr
  refine ⟨?_, ?_, ?_⟩
  · apply Nat.le_trans _ hSize
    apply Path.utf8ByteSize_le_of_sublist
    rw [hNormal]
    exact Path.intercalate_kept_sublist path.toList
  · rw [hNormal]
    exact Path.head_intercalate_kept hKept
  · rw [hNormal, Path.segments_intercalate_kept hKept]
    exact follow_kept hFollow

/-- A file under a plain name is what that name leads to. -/
theorem FileTree.opens_singleton (name : String) (bytes : List UInt8)
    (hSlash : '/' ∉ name.toList) (hIdle : Path.isIdle name.toList = false)
    (hUp : name.toList ≠ ['.', '.']) (hSize : name.utf8ByteSize ≤ maxNameBytes) :
    Path.Opens (ofPaths [(name, .file bytes)]).find name bytes := by
  have hSegments : Path.segments name.toList = [name.toList] := by
    rw [Path.segments_eq_splitOn, List.splitOn_eq_singleton hSlash]
  have hNonempty : name.toList ≠ [] := by
    intro hNil
    rw [hNil] at hIdle
    cases hIdle
  obtain ⟨c, rest, hName⟩ := List.exists_cons_of_ne_nil hNonempty
  have hc : c ≠ '/' := by
    rintro rfl
    exact hSlash (hName ▸ List.mem_cons_self)
  apply FileTree.opens
  apply find_eq_file_iff.mpr
  refine ⟨Nat.le_trans hSize (by decide), ⟨c, rest, hName, hc⟩, ?_⟩
  have hEntries : (ofPaths [(name, .file bytes)]).entries = [([name.toList], .file bytes)] := by
    simp [ofPaths, hSegments, hIdle]
  rw [hSegments]
  apply follow_cons_eq_file_iff.mpr
  refine ⟨?_, ?_, .within [name.toList], ?_, ?_⟩
  · simp [look, entryAt, hEntries]
  · rwa [String.ofList_toList]
  · simp [enter, hIdle, hUp]
  · simp [follow, look, entryAt, hEntries]

end TeenyLexer
