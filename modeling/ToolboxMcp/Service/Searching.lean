import Mathlib.Data.Prod.Lex
import Mathlib.Data.String.Basic
import ToolboxMcp.Library.Leaders
import ToolboxMcp.Service.Views

/-!
# Searching the registry

`search_toolsets` counts how many words of the query occur in the metadata of a
toolset and shows the toolsets with most of them first, by name where they are
level.
-/

namespace ToolboxMcp

/-- Python's `str.lower` and the white space `str.split` splits at. -/
structure TextRules where
  lower : String → String
  isspace : Char → Bool

/-- `text.split()`. -/
def TextRules.split (rules : TextRules) (text : String) : List String :=
  ((text.toList.splitOnP rules.isspace).filter fun word =>
    !word.isEmpty).map String.ofList

def queryTerms (rules : TextRules) (query : String) : List String :=
  (rules.split (rules.lower query)).filter fun term => term ≠ ""

def haystack (rules : TextRules) (record : ToolsetRecord) : String :=
  rules.lower <|
    String.intercalate " "
      [record.ns, record.title, record.description,
       String.intercalate " " record.tags]

/-- `term in text`. -/
def isSubstring (term text : String) : Bool :=
  text.toList.tails.any fun rest => term.toList.isPrefixOf rest

def searchScore (rules : TextRules) (terms : List String)
    (record : ToolsetRecord) : Nat :=
  (terms.filter fun term => isSubstring term (haystack rules record)).length

def matchesQuery (rules : TextRules) (terms : List String)
    (includeInactive : Bool) (record : ToolsetRecord) : Bool :=
  (includeInactive || !record.loadedScopes.isEmpty) &&
    (0 < searchScore rules terms record || terms.isEmpty)

/-- The key `(-score, namespace)`. -/
def searchKey (rules : TextRules) (terms : List String)
    (record : ToolsetRecord) : Lex (OrderDual Nat × Namespace) :=
  toLex (OrderDual.toDual (searchScore rules terms record), record.ns)

structure SearchResult where
  ns : Namespace
  title : String
  description : String
  tags : List String
  transport : TransportKind
  loaded : Bool
  stale : Bool
deriving DecidableEq, Repr

def searchResult (record : ToolsetRecord) : SearchResult where
  ns := record.ns
  title := record.title
  description := record.description
  tags := record.tags
  transport := record.transport.kind
  loaded := !record.loadedScopes.isEmpty
  stale := record.stale

structure SearchResponse where
  query : String
  count : Nat
  results : List SearchResult
deriving DecidableEq, Repr

/-- How many of the items `items[:limit]` keeps. -/
def sliceBound (limit : Int) (length : Nat) : Nat :=
  if 0 ≤ limit then limit.toNat else length - (-limit).toNat

def searchToolsets (rules : TextRules) (document : StateDocument)
    (query : String) (limit : Int) (includeInactive : Bool) :
    SearchResponse :=
  let terms := queryTerms rules query
  let found :=
    document.toolsets.filter (matchesQuery rules terms includeInactive)
  let ranked := Leaders.ranked (searchKey rules terms) found
  let results :=
    (ranked.take (sliceBound limit ranked.length)).map searchResult
  { query := query
    count := results.length
    results := results }

/-! ## The ranking -/

/-- More words of the query, or the smaller name where they are level. -/
def RanksBefore (rules : TextRules) (terms : List String)
    (left right : ToolsetRecord) : Prop :=
  searchScore rules terms right < searchScore rules terms left ∨
    searchScore rules terms left = searchScore rules terms right ∧
      left.ns < right.ns

instance (rules : TextRules) (terms : List String)
    (left right : ToolsetRecord) :
    Decidable (RanksBefore rules terms left right) :=
  inferInstanceAs (Decidable (_ ∨ _))

variable {rules : TextRules} {terms : List String}

theorem searchKey_lt {left right : ToolsetRecord} :
    searchKey rules terms left < searchKey rules terms right ↔
      RanksBefore rules terms left right := by
  unfold searchKey RanksBefore
  rw [Prod.Lex.toLex_lt_toLex]
  simp

/-- Toolsets with different names have different ranks. -/
theorem nodup_searchKey {records : List ToolsetRecord}
    (distinct : (records.map ToolsetRecord.ns).Nodup) :
    (records.map (searchKey rules terms)).Nodup := by
  have names :
      (records.map (searchKey rules terms)).map
          (fun key => (ofLex key).2) =
        records.map ToolsetRecord.ns := by
    simp [searchKey, Function.comp_def]
  apply List.Nodup.of_map (fun key => (ofLex key).2)
  rw [names]
  exact distinct

/-- The leading matches are shown, in the order of their ranks. -/
theorem searchToolsets_leaders {document : StateDocument}
    (distinct : (document.toolsets.map ToolsetRecord.ns).Nodup)
    (query : String) (limit : Int) (includeInactive : Bool) :
    let terms := queryTerms rules query
    let found :=
      document.toolsets.filter (matchesQuery rules terms includeInactive)
    ∃ shown : List ToolsetRecord,
      (searchToolsets rules document query limit includeInactive).results =
          shown.map searchResult ∧
        shown.Pairwise (RanksBefore rules terms) ∧
        ∀ record, record ∈ shown ↔
          record ∈ found ∧
            found.countP (fun other => RanksBefore rules terms other record) <
              sliceBound limit found.length := by
  intro terms found
  have separate : (found.map (searchKey rules terms)).Nodup :=
    nodup_searchKey (distinct.sublist (List.filter_sublist.map _))
  have length : (Leaders.ranked (searchKey rules terms) found).length =
      found.length :=
    (Leaders.perm_ranked _ found).length_eq
  refine ⟨(Leaders.ranked (searchKey rules terms) found).take
    (sliceBound limit found.length), ?_, ?_, ?_⟩
  · unfold searchToolsets
    simp only
    rw [length]
  · apply List.Pairwise.sublist (List.take_sublist _ _)
    exact (Leaders.pairwise_ranked separate).imp searchKey_lt.mp
  · intro record
    rw [Leaders.mem_take_ranked separate]
    simp only [searchKey_lt]

/-- The order of the records in the document does not matter. -/
theorem searchToolsets_of_perm {document shuffled : StateDocument}
    (distinct : (document.toolsets.map ToolsetRecord.ns).Nodup)
    (perm : document.toolsets.Perm shuffled.toolsets)
    (query : String) (limit : Int) (includeInactive : Bool) :
    searchToolsets rules shuffled query limit includeInactive =
      searchToolsets rules document query limit includeInactive := by
  have separate :
      ((document.toolsets.filter (matchesQuery rules (queryTerms rules query)
        includeInactive)).map
          (searchKey rules (queryTerms rules query))).Nodup :=
    nodup_searchKey (distinct.sublist (List.filter_sublist.map _))
  unfold searchToolsets
  simp only
  rw [← Leaders.ranked_of_perm separate (perm.filter _)]

end ToolboxMcp
