import DocumentStore.Cluster.Target
import DocumentStore.Proofs.Text.Percent

/-! A target read back. Its path is what stands before the first `?` and its parameters are the form behind it, whatever
characters the path and the parameters are made of. -/

namespace DocumentStore.Cluster

/-- The value of a parameter: a text or a truth value. -/
inductive Argument where
  | text (s : String)
  | flag (b : Bool)

namespace Argument

def toJson : Argument → Json
  | text s => .str s
  | flag b => .bool b

/-- How the value is spelled. -/
def spelled : Argument → String
  | text s => s
  | flag b => if b then "true" else "false"

end Argument

/-- Parameters as they are asked for. -/
def asked (arguments : List (String × Argument)) : Params := arguments.map fun (k, v) => (.str k, v.toJson)

/-- Parameters as they are to be read. -/
def fieldsOf (arguments : List (String × Argument)) : List (String × String) :=
  arguments.map fun (k, v) => (k, v.spelled)

/-- A path without the slashes in front of it. -/
def relative (path : Option String) : List Char := (path.getD "").toList.dropWhile (· = '/')

/-- The part of a target before its first `?`. -/
def pathPart (target : String) : List Char := target.toList.takeWhile (· ≠ '?')

/-- What follows the first `?` of a target, if it has one. -/
def queryPart? (target : String) : Option (List Char) := (target.toList.dropWhile (· ≠ '?')).tail?

/-- The segments of the path of a target, each read by itself. -/
def segments? (target : String) : Option (List String) := ((pathPart target).splitOn '/').mapM Text.percentDecode?

/-! ### The two parts of a target -/

/-- The path of a target as it is written, with the slash that it begins with. -/
def pathChars (path : Option String) : List Char := Text.percentEncode isPathChar (String.ofList ('/' :: relative path))

theorem target_toList (path : Option String) (params : Params) :
    (target path params).toList = pathChars path ++ if params.isEmpty then [] else '?' :: queryChars params := by
  have hslash : Text.percentChar isPathChar '/' = ['/'] := Text.percentChar_kept (by decide) (by decide)
  have hpath : pathChars path = '/' :: Text.percentEncode isPathChar (String.ofList (relative path)) := by
    rw [pathChars, Text.percentEncode_eq, Text.percentEncode_eq, String.toList_ofList, String.toList_ofList,
      List.flatMap_cons, hslash, List.singleton_append]
  rw [target, String.toList_ofList, hpath]
  rfl

theorem mem_pathChars {path : Option String} {c : Char} (h : c ∈ pathChars path) :
    c = '%' ∨ Text.isUnreserved c = true ∨ c = '/' ∨ c = ',' ∨ c = '*' := by
  rcases Text.mem_percentEncode h with hsign | hfree | ⟨hkept, -⟩
  · exact .inl hsign
  · exact .inr (.inl hfree)
  · simp only [isPathChar, Bool.or_eq_true, decide_eq_true_eq, or_assoc] at hkept
    exact .inr hkept

theorem questionMark_notMem_pathChars (path : Option String) : '?' ∉ pathChars path := by
  intro h
  have hnone := mem_pathChars h
  revert hnone
  decide

theorem pathChars_all (path : Option String) : ∀ c ∈ pathChars path, decide (c ≠ '?') = true := by
  intro c hc
  refine decide_eq_true ?_
  rintro rfl
  exact questionMark_notMem_pathChars path hc

theorem pathPart_target (path : Option String) (params : Params) : pathPart (target path params) = pathChars path := by
  unfold pathPart
  rw [target_toList, List.takeWhile_append_of_pos (pathChars_all path)]
  split_ifs <;> simp

theorem queryPart?_target (path : Option String) (params : Params) :
    queryPart? (target path params) = if params.isEmpty then none else some (queryChars params) := by
  unfold queryPart?
  rw [target_toList, List.dropWhile_append_of_pos (pathChars_all path)]
  split_ifs <;> simp

theorem questionMark_mem_target_iff (path : Option String) (params : Params) :
    '?' ∈ (target path params).toList ↔ params ≠ [] := by
  rw [target_toList]
  cases params <;> simp [questionMark_notMem_pathChars]

theorem queryChars_asked (arguments : List (String × Argument)) :
    queryChars (asked arguments) = Text.formFields (fieldsOf arguments) := by
  have hspelled (v : Argument) : paramText v.toJson = v.spelled := by
    cases v with
    | text s => exact Text.toString_ofString s
    | flag b => cases b <;> rfl
  have hkey (k : String) : (Json.str k).display = k := Text.toString_ofString k
  unfold queryChars asked fieldsOf
  rw [List.map_map]
  congr 1
  refine List.map_congr_left fun argument _ => ?_
  simp only [Function.comp_apply, hkey, hspelled]

/-- All that a target is made of is printable, and neither a space nor the mark of a fragment. -/
theorem target_printable {path : Option String} {params : Params} {c : Char} (h : c ∈ (target path params).toList) :
    0x20 < c.toNat ∧ c.toNat < 0x7F ∧ c ≠ '#' := by
  have hunreserved (hc : Text.isUnreserved c = true) : 0x20 < c.toNat ∧ c.toNat < 0x7F ∧ c ≠ '#' :=
    Text.of_isUnreserved (P := fun c => 0x20 < c.toNat ∧ c.toNat < 0x7F ∧ c ≠ '#') (by decide) hc
  rw [target_toList, List.mem_append] at h
  rcases h with hpath | hquery
  · rcases mem_pathChars hpath with rfl | hc | rfl | rfl | rfl
    · decide
    · exact hunreserved hc
    all_goals decide
  · split_ifs at hquery
    · cases hquery
    rcases List.mem_cons.1 hquery with rfl | hform
    · decide
    rcases Text.mem_formFields hform with rfl | rfl | rfl | rfl | hc
    · decide
    · decide
    · decide
    · decide
    · exact hunreserved hc

/-- The segments of a target are those of its path. -/
theorem segments?_target (path : Option String) (params : Params) :
    segments? (target path params) = some ((('/' :: relative path).splitOn '/').map String.ofList) := by
  unfold segments?
  rw [pathPart_target, pathChars, Text.splitOn_percentEncode (by decide) (by decide) (by decide) (by decide),
    String.toList_ofList]
  exact Text.mapM_map_some (Text.percentDecode?_percentEncode (by decide)) _

/-- Whatever a path and parameters are made of, their target is made of printable ASCII characters other than `#`, its
path is the path below one slash, and behind the `?` that it has if there are parameters it is a form of these parameters,
in their order and with truth values in lower case. -/
theorem target_reads_back (path : Option String) (arguments : List (String × Argument)) :
    (∀ c ∈ (target path (asked arguments)).toList, 0x20 < c.toNat ∧ c.toNat < 0x7F ∧ c ≠ '#') ∧
    Text.percentDecode? (pathPart (target path (asked arguments))) = some (String.ofList ('/' :: relative path)) ∧
    ('?' ∈ (target path (asked arguments)).toList ↔ arguments ≠ []) ∧
    (queryPart? (target path (asked arguments))).map Text.readForm? =
      if arguments = [] then none else some (some (fieldsOf arguments)) := by
  have hempty : asked arguments = [] ↔ arguments = [] := List.map_eq_nil_iff
  refine ⟨fun c hc => target_printable hc, ?_, ?_, ?_⟩
  · rw [pathPart_target]
    exact Text.percentDecode?_percentEncode (by decide) _
  · rw [questionMark_mem_target_iff]
    exact not_congr hempty
  · rw [queryPart?_target]
    by_cases hnone : arguments = []
    · simp [hnone, asked]
    · have hsome : (asked arguments).isEmpty = false := by simpa [List.isEmpty_iff] using hempty.not.2 hnone
      have hform : Text.readForm? (Text.formFields (fieldsOf arguments)) = some (fieldsOf arguments) :=
        Text.readForm?_formFields (by simpa [fieldsOf] using hnone)
      rw [hsome, if_neg Bool.false_ne_true, if_neg hnone, Option.map_some, queryChars_asked, hform]

/-- Nothing that stands in a path or in a parameter is read as anything else. -/
theorem reserved_target_reads_back :
    let address := target (some "//docs/a b?é#%2F") (asked [("q&=", .text "v+ %"), ("", .text ""), ("q&=", .flag true)])
    '?' ∈ address.toList ∧
    Text.percentDecode? (pathPart address) = some "/docs/a b?é#%2F" ∧
    (queryPart? address).map Text.readForm? = some (some [("q&=", "v+ %"), ("", ""), ("q&=", "true")]) := by
  obtain ⟨-, hpath, hmark, hquery⟩ := target_reads_back (some "//docs/a b?é#%2F")
    [("q&=", .text "v+ %"), ("", .text ""), ("q&=", .flag true)]
  exact ⟨hmark.2 (by decide), hpath, hquery⟩

end DocumentStore.Cluster
