import ToolboxMcp.Models

/-!
# Tool inventories

Normalisation, duplicate detection, hashing and comparison of the inventories
downstream servers report.  `Platform` collects what the code takes from
outside the repository: the canonical JSON encoder, the digest, the character
classes of the host language and the wording of schema-validation errors.
`Ascii.platform` is a concrete one, for runs on plain text.
-/

namespace ToolboxMcp

class Platform where
  dumps : Json → String
  hexdigest : String → String
  isalnum : Char → Bool
  /-- The separator of mounted names is punctuation. -/
  isalnum_dot : isalnum '.' = false
  /-- The text of a validation error: what the validator says, and of the
  rejected input whatever the library shows of it. -/
  validationError : Json → String → String

/-- A tool as a downstream server lists it. -/
structure Tool where
  name : String
  title : Option String := none
  description : Option String := none
  inputSchema : Json := .obj []
  outputSchema : Option Json := none
deriving Repr

/-- A raised `Exception`; `timeout` marks a `TimeoutError`. -/
structure PyException where
  timeout : Bool := false
  message : String
deriving Repr, DecidableEq

section Inventories

variable [Platform]

def sha256 (payload : Json) : String :=
  "sha256:" ++ Platform.hexdigest (Platform.dumps payload)

def normalizeTool (tool : Tool) : ToolSchema :=
  let payload := Json.obj
    [("name", .str tool.name),
     ("title", .ofStr? tool.title),
     ("description", .ofStr? tool.description),
     ("input_schema", tool.inputSchema),
     ("output_schema", tool.outputSchema.getD .null)]
  { name := tool.name
    title := tool.title
    description := tool.description
    inputSchema := tool.inputSchema.orEmpty
    outputSchema := tool.outputSchema
    toolHash := sha256 payload }

def sortTools (tools : List ToolSchema) : List ToolSchema :=
  tools.insertionSort fun left right => left.name ≤ right.name

def sortNames (names : List String) : List String :=
  names.insertionSort fun left right => left ≤ right

def duplicateNames (names : List String) : List String :=
  sortNames (names.dedup.filter fun name => 1 < names.count name)

def validateToolInventory
    (ns : Namespace) (tools : List Tool) :
    Except PyException (List ToolSchema) :=
  let duplicates := duplicateNames (tools.map Tool.name)
  if duplicates.isEmpty then
    .ok (sortTools (tools.map normalizeTool))
  else
    .error
      { message :=
          ns ++ " returned duplicate tool names: " ++
            ", ".intercalate duplicates }

def inventoryHash (tools : List ToolSchema) : String :=
  sha256 <| .arr <| (sortTools tools).map fun tool => .obj
    [("name", .str tool.name),
     ("title", .ofStr? tool.title),
     ("description", .ofStr? tool.description),
     ("input_schema", tool.inputSchema),
     ("output_schema", tool.outputSchema.getD .null),
     ("tool_hash", .str tool.toolHash)]

/-- A dict comprehension keeps the last tool of a name. -/
def toolNamed (name : String) (tools : List ToolSchema) : Option ToolSchema :=
  tools.reverse.find? fun tool => tool.name = name

def diffToolsets
    (ns : Namespace) (previous current : List ToolSchema) : RefreshResult :=
  let previousNames := (previous.map ToolSchema.name).dedup
  let currentNames := (current.map ToolSchema.name).dedup
  { ns := ns
    newSchemaHash := inventoryHash current
    addedTools :=
      sortNames (currentNames.filter fun name => name ∉ previousNames)
    removedTools :=
      sortNames (previousNames.filter fun name => name ∉ currentNames)
    changedTools :=
      sortNames <| currentNames.filter fun name =>
        name ∈ previousNames ∧
          (toolNamed name current).map ToolSchema.toolHash ≠
            (toolNamed name previous).map ToolSchema.toolHash }

end Inventories

namespace Ascii

/-! ## A concrete platform -/

mutual

/-- Compact encoding with sorted keys, of text without characters to escape. -/
def dumps : Json → String
  | .null => "null"
  | .bool value => if value then "true" else "false"
  | .num value => toString value
  | .str value => "\"" ++ value ++ "\""
  | .arr items => "[" ++ ",".intercalate (dumpsItems items) ++ "]"
  | .obj fields =>
      let sorted :=
        (dumpsFields fields).insertionSort fun left right => left.1 ≤ right.1
      "\x7b" ++ ",".intercalate (sorted.map Prod.snd) ++ "\x7d"

def dumpsItems : List Json → List String
  | [] => []
  | item :: rest => dumps item :: dumpsItems rest

def dumpsFields : List (String × Json) → List (String × String)
  | [] => []
  | (name, value) :: rest =>
      (name, "\"" ++ name ++ "\":" ++ dumps value) :: dumpsFields rest

end

/-- The only tool of a small downstream server. -/
def ping : Tool where
  name := "ping"

/-- The tool with a description. -/
def describedPing : Tool :=
  { ping with description := some "Reply." }

/-- The fields of the tool with this description that are hashed. -/
def pingText (description : String) : String :=
  "\x7b\"description\":" ++ description ++
    ",\"input_schema\":\x7b\x7d,\"name\":\"ping\"," ++
    "\"output_schema\":null,\"title\":null"

/-- The digests of what is hashed for that server, for one whose tool is
described, and for one without tools. -/
def hexdigest (text : String) : String :=
  if text = "[]" then
    "4f53cda18c2baa0c0354bb5f9a3ecbe5ed12ab4d8e11ba873c2f11161202b945"
  else if text = pingText "null" ++ "\x7d" then
    "b3ada9a944b1314b966f16bf92eef42598d64568a34c8f1a0f2aa7def24b5b1d"
  else if text =
      "[" ++ pingText "null" ++ ",\"tool_hash\":\"sha256:" ++
        "b3ada9a944b1314b966f16bf92eef42598d64568a34c8f1a0f2aa7def24b5b1d" ++
        "\"\x7d]" then
    "f31fbc5c07cf07339e4d50e13d9eb108e04e211442854abd777a72c75c4b7cf0"
  else if text = pingText "\"Reply.\"" ++ "\x7d" then
    "612bcfdfe8b6614dccfb6417848495ce1fc0a7dd97ce1fa6b49afa8ebea12ff6"
  else if text =
      "[" ++ pingText "\"Reply.\"" ++ ",\"tool_hash\":\"sha256:" ++
        "612bcfdfe8b6614dccfb6417848495ce1fc0a7dd97ce1fa6b49afa8ebea12ff6" ++
        "\"\x7d]" then
    "f73b878e696769b0ef25ca50c1ec956f286cc1f84e3f8ed7ef91b248616725be"
  else
    ""

scoped instance platform : Platform where
  dumps := dumps
  hexdigest := hexdigest
  isalnum := Char.isAlphanum
  isalnum_dot := by decide
  validationError := fun _ message => message

example :
    inventoryHash [normalizeTool ping] =
      "sha256:" ++
        "f31fbc5c07cf07339e4d50e13d9eb108e04e211442854abd777a72c75c4b7cf0" := by
  decide +kernel

end Ascii

end ToolboxMcp
