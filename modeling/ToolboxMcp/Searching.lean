import ToolboxMcp.Recovery
import ToolboxMcp.Service.Searching

/-!
# What a search finds

In every state of every life the names of the toolsets are distinct, so a search
is a ranking of them: it says which toolsets come first and not where their
records happen to be stored.
-/

namespace ToolboxMcp

namespace Machine

section Lives

variable [Platform] {machine : Machine}

/-- A toolset is found exactly if it matches and fewer matches come before it
than the limit lets through; what is found is listed by rank, and would be
found the same way in any other order of the registry. -/
theorem search_finds_leaders {host : World} (fresh : host.document = {})
    (reaches :
      Reaches lifeStep (fun _ _ => True) (restart { world := host }) machine)
    (rules : TextRules) (query : String) (limit : Int)
    (includeInactive : Bool) :
    let terms := queryTerms rules query
    let document := machine.world.document
    let found :=
      document.toolsets.filter (matchesQuery rules terms includeInactive)
    let response :=
      searchToolsets rules document query limit includeInactive
    (∃ shown : List ToolsetRecord,
        response.results = shown.map searchResult ∧
          shown.Pairwise (RanksBefore rules terms) ∧
          ∀ record, record ∈ shown ↔
            record ∈ found ∧
              found.countP
                  (fun other => RanksBefore rules terms other record) <
                sliceBound limit found.length) ∧
      response.count =
        min (sliceBound limit found.length) found.length ∧
      ∀ records, document.toolsets.Perm records →
        searchToolsets rules { document with toolsets := records } query
          limit includeInactive = response := by
  intro terms document found response
  have distinct := (keptWell_of_lives fresh reaches).distinct.records
  refine ⟨searchToolsets_leaders distinct query limit includeInactive, ?_, ?_⟩
  · have length : (Leaders.ranked (searchKey rules terms) found).length =
        found.length :=
      (Leaders.perm_ranked _ found).length_eq
    change (List.map searchResult _).length = _
    rw [List.length_map, List.length_take, length]
  · exact fun records perm =>
      @searchToolsets_of_perm rules document { document with toolsets := records }
        distinct perm query limit includeInactive

end Lives

section Ascii

open scoped Ascii

/-- Lower case and blanks, for letters that have no other. -/
def asciiText : TextRules where
  lower := String.toLower
  isspace := fun character => character == ' '

/-- A second toolset is registered; only one of the two is about files. -/
theorem search_finds_leaders_files :
    ∃ machine,
      Reaches lifeStep (fun _ _ => True) (restart { world := {} }) machine ∧
        (searchToolsets asciiText machine.world.document "local Files" 10
          true).results.map SearchResult.ns = ["files"] ∧
        ∀ records, machine.world.document.toolsets.Perm records →
          searchToolsets asciiText
              { machine.world.document with toolsets := records }
              "local Files" 10 true =
            searchToolsets asciiText machine.world.document "local Files" 10
              true := by
  obtain ⟨machine, reaches, names⟩ :=
    exists_reaches_of_execute
      [some (.request
         (.registerToolset "files" (.ok { command := "python" })
           { title := "Files", description := "Local files" })),
       some (.acquire 0), some (.enter 0)]
      (by decide +kernel :
        (execute lifeStep (fun _ _ => True) (restart { world := {} }) _).any
          (fun machine =>
            (searchToolsets asciiText machine.world.document "local Files" 10
              true).results.map SearchResult.ns = ["files"]) = true)
  exact ⟨machine, reaches, names,
    (search_finds_leaders rfl reaches asciiText "local Files" 10 true).2.2⟩

end Ascii

end Machine

end ToolboxMcp
