import QualityGate.Source.Functions

/-!
# Dead code

A definition is dead when its name stands nowhere in the code of the project but at the definition; statements are dead when they
follow an unconditional exit at the same indentation. Names that tests, entry points and conventions use are never reported.
-/

namespace QualityGate

open QualityGate.Toolchain

/-- How sure a finding is. -/
inductive Confidence where
  | high
  | medium
  | low
  deriving DecidableEq, Repr, Inhabited

namespace Confidence

def name : Confidence → String
  | high => "High"
  | medium => "Medium"
  | low => "Low"

instance : Encode Confidence := ⟨fun c => .str c.name⟩
instance : Decode Confidence := ⟨fun j => j.str?.bind fun s => [high, medium, low].find? fun c => c.name = s⟩

end Confidence

/-- What kind of code is dead. -/
inductive DeadKind where
  | function
  | class_
  | module
  | unreachable
  deriving DecidableEq, Repr, Inhabited

namespace DeadKind

def name : DeadKind → String
  | function => "function"
  | class_ => "class"
  | module => "module"
  | unreachable => "unreachable"

instance : Encode DeadKind := ⟨fun k => .str k.name⟩
instance : Decode DeadKind :=
  ⟨fun j => j.str?.bind fun s => [function, class_, module, unreachable].find? fun k => k.name = s⟩

end DeadKind

/-- A piece of dead code. -/
structure DeadItem where
  itemType : DeadKind
  name : String
  line : Nat
  reason : String
  deriving DecidableEq, Repr, Inhabited

instance : Encode DeadItem where
  encode i :=
    .obj [("itemType", encode i.itemType), ("name", encode i.name), ("line", encode i.line), ("reason", encode i.reason)]

instance : Decode DeadItem where
  decode? j := do
    return { itemType := j.fieldD "itemType" .function, name := j.fieldD "name" "", line := j.fieldD "line" 0,
             reason := j.fieldD "reason" "" }

/-- The dead code of a file. -/
structure FileDeadCode where
  path : String
  deadLines : Nat
  totalLines : Nat
  deadPercentage : Number
  deadFunctions : Nat
  deadClasses : Nat
  deadModules : Nat
  unreachableBlocks : Nat
  items : List DeadItem
  confidence : Confidence
  deriving DecidableEq, Inhabited

instance : Encode FileDeadCode where
  encode f :=
    .obj [("path", encode f.path), ("deadLines", encode f.deadLines), ("totalLines", encode f.totalLines),
      ("deadPercentage", encode f.deadPercentage), ("deadFunctions", encode f.deadFunctions),
      ("deadClasses", encode f.deadClasses), ("deadModules", encode f.deadModules),
      ("unreachableBlocks", encode f.unreachableBlocks), ("items", encode f.items), ("confidence", encode f.confidence)]

instance : Decode FileDeadCode where
  decode? j := do
    return { path := j.fieldD "path" "", deadLines := j.fieldD "deadLines" 0, totalLines := j.fieldD "totalLines" 0,
             deadPercentage := j.fieldD "deadPercentage" 0, deadFunctions := j.fieldD "deadFunctions" 0,
             deadClasses := j.fieldD "deadClasses" 0, deadModules := j.fieldD "deadModules" 0,
             unreachableBlocks := j.fieldD "unreachableBlocks" 0, items := j.fieldD "items" [],
             confidence := j.fieldD "confidence" .high }

/-- The dead code of a project in a few numbers. -/
structure DeadCodeSummary where
  totalFilesAnalyzed : Nat
  filesWithDeadCode : Nat
  totalDeadLines : Nat
  deadPercentage : Number
  deadFunctions : Nat
  deadClasses : Nat
  deadModules : Nat
  unreachableBlocks : Nat
  deriving DecidableEq, Inhabited

instance : Encode DeadCodeSummary where
  encode s :=
    .obj [("totalFilesAnalyzed", encode s.totalFilesAnalyzed), ("filesWithDeadCode", encode s.filesWithDeadCode),
      ("totalDeadLines", encode s.totalDeadLines), ("deadPercentage", encode s.deadPercentage),
      ("deadFunctions", encode s.deadFunctions), ("deadClasses", encode s.deadClasses),
      ("deadModules", encode s.deadModules), ("unreachableBlocks", encode s.unreachableBlocks)]

instance : Decode DeadCodeSummary where
  decode? j := do
    return { totalFilesAnalyzed := j.fieldD "totalFilesAnalyzed" 0, filesWithDeadCode := j.fieldD "filesWithDeadCode" 0,
             totalDeadLines := j.fieldD "totalDeadLines" 0, deadPercentage := j.fieldD "deadPercentage" 0,
             deadFunctions := j.fieldD "deadFunctions" 0, deadClasses := j.fieldD "deadClasses" 0,
             deadModules := j.fieldD "deadModules" 0, unreachableBlocks := j.fieldD "unreachableBlocks" 0 }

/-- A file of a project with its content. -/
structure Document where
  path : String
  content : List Char
  deriving DecidableEq, Repr, Inhabited

instance : Decode Document where
  decode? j := do
    return { path := j.fieldD "path" "", content := (j.fieldD "content" "").toList }

namespace DeadCode

/-- The visibility that may stand before an item. -/
def visibility : Pattern := .opt (.all [.lit "pub", .opt Functions.parenthesised, .blanks1])

/-- A word that may stand with blanks after it. -/
def optionalWord (word : String) : Pattern := .opt (.seq (.lit word) .blanks1)

/-- A line of code that defines a type. -/
def classPattern : Toolchain → Pattern
  | rust =>
    .all [.textStart, .blanks, visibility, .words ["struct", "enum", "trait"], .blanks1,
      Functions.nameGroup Functions.identifier]
  | deno =>
    .all [.textStart, .blanks, optionalWord "export", optionalWord "default", optionalWord "abstract", .lit "class", .blanks1,
      Functions.nameGroup Functions.dollarIdentifier]
  | pythonUv => .all [.textStart, .blanks, .lit "class", .blanks1, Functions.nameGroup Functions.identifier]
  | go =>
    .all [.textStart, .blanks, .lit "type", .blanks1, Functions.nameGroup Functions.identifier, .blanks1,
      .words ["struct", "interface"], .wordEdge]

/-- A line of code that opens a module. -/
def inlineModule : Pattern :=
  .all [.textStart, .blanks, visibility, .lit "mod", .blanks1,
    Functions.nameGroup (.seq (.one fun c => c.isLower || c = '_') (.many .wordChar)), .blanks, .lit "\x7b"]

/-- A keyword with whatever follows it. -/
def keywordThen (word : String) (rest : List Pattern) : Pattern := .all (.lit word :: .wordEdge :: rest)

/-- A line of code that is an unconditional exit. -/
def terminator : Toolchain → Pattern
  | rust =>
    let call : Pattern :=
      .all [.words ["panic", "unreachable", "todo", "unimplemented"], .lit "!(", .many .inLine, .lit ");"]
    whole [keywordThen "return" [.many (.butNot ';'), .lit ";"], .all [.lit "break", .blanks, .lit ";"],
      .all [.lit "continue", .blanks, .lit ";"], call]
  | deno =>
    whole [keywordThen "return" [.many (.butNot ';'), .opt (.lit ";")], .all [.lit "break", .blanks, .opt (.lit ";")],
      .all [.lit "continue", .blanks, .opt (.lit ";")], keywordThen "throw" [.many .inLine]]
  | go =>
    whole [keywordThen "return" [.many .inLine], .lit "break", .lit "continue",
      .all [.lit "panic(", .many .inLine, .lit ")"]]
  | pythonUv =>
    whole [keywordThen "return" [.many .inLine], keywordThen "raise" [.many .inLine], .lit "break", .lit "continue"]
where
  /-- One of some statements as the only thing on the line. -/
  whole (statements : List Pattern) : Pattern := .all [.textStart, .blanks, .any statements, .blanks, .textEnd]

/-- Names that are used by convention. -/
def alwaysLive : List String := ["main", "init", "constructor", "new", "default", "drop", "fmt", "from", "into"]

/-- A mark of a test close above a definition. -/
def testMark : Pattern :=
  .any [.all [.lit "#[", .opt (.lit "tokio::"), .lit "test]"], .lit "#[cfg(test)]", .lit "@pytest",
    .seq .wordEdge (.lit "describe("), .seq .wordEdge (.lit "it(")]

/-- A name between double underscores. -/
def isDunder (name : List Char) : Bool :=
  4 < name.length && name.all isWordChar && name.take 2 = ['_', '_'] && name.drop (name.length - 2) = ['_', '_']

/-- Whether a definition can be used from outside its file. -/
def isExported (t : Toolchain) (code : List Char) (name : List Char) : Bool :=
  match t with
  | rust => hasWord ["pub"] code
  | deno => startsWithWord "export" code
  | go => name.head?.any Char.isUpper
  | pythonUv => name.head? ≠ some '_'

/-- Whether a definition on a line, counted from 0, is a test, an entry point or used by convention: by its name or by a mark on
one of the three lines above. -/
def isTestOrEntry (name : List Char) (lines : List Line) (index : Nat) : Bool :=
  alwaysLive.contains (String.ofList name) || "test".toList.isPrefixOf name || isDunder name ||
    ((lines.take index).drop (index - 3)).any fun line => testMark.occurs line.text

/-- How often a name stands in the code of some lines. -/
def mentions (name : List Char) (lines : List Line) : Nat :=
  total (lines.map fun line => (identifiersOf line.code).count name)

/-- How often a name stands in the code of a project. -/
def references (name : List Char) (project : List (List Line)) : Nat := total (project.map (mentions name))

/-- A run of statements that follow an exit: its first line and its length. -/
structure DeadRun where
  line : Nat
  length : Nat
  deriving DecidableEq, Repr

/-- The words that start a new branch, which an exit does not cut off. -/
def branchWords : List String := ["case", "default", "else", "elif", "except", "finally"]

/-- Whether a line with code ends the run of statements after an exit at some indentation. -/
def endsRun (indent : Nat) (line : Line) : Bool :=
  let code := trim line.code
  line.indentation ≠ indent || code.head? = some '\x7d' || branchWords.any fun w => startsWithWord w code

/-- The statements that follow an exit. -/
def runAfter (indent : Nat) (lines : List Line) : List Line := (lines.filter (·.hasCode)).takeWhile (!endsRun indent ·)

/-- The runs of statements that follow exits. -/
def unreachable (t : Toolchain) : List Line → List DeadRun
  | [] => []
  | line :: rest =>
    let here :=
      if (terminator t).occurs line.code then
        match runAfter line.indentation rest with
        | [] => []
        | first :: more => [⟨first.number, more.length + 1⟩]
      else []
    here ++ unreachable t rest

/-- A dead item with the lines it takes and whether it could be used from elsewhere. -/
structure Finding where
  item : DeadItem
  lines : Nat
  exported : Bool
  deriving DecidableEq, Repr

/-- The dead functions of a file. -/
def deadFunctions (t : Toolchain) (project : List (List Line)) (lines : List Line) : List Finding :=
  (analyzeFunctions t lines).filterMap fun f =>
    let index := f.line - 1
    let name := f.name.toList
    match lines[index]? with
    | none => none
    | some line =>
      if isTestOrEntry name lines index ∨ 1 < references name project then none
      else
        let exported := isExported t line.code name
        let reason := if exported then "Exported but never referenced in the project" else "Never referenced"
        some ⟨⟨.function, f.name, f.line, reason⟩, f.endLine + 1 - f.line, exported⟩

/-- The name that a pattern finds in a line of code. -/
def definedName? (p : Pattern) (code : List Char) : Option (List Char) := (p.find code).bind (·.group 1)

/-- The dead type that a line defines, if any. -/
def deadClass? (t : Toolchain) (project : List (List Line)) (lines : List Line) (index : Nat) (line : Line) :
    Option Finding := do
  let name ← definedName? (classPattern t) line.code
  if isTestOrEntry name lines index ∨ 1 < references name project then none
  else
    let exported := isExported t line.code name
    let reason := if exported then "Exported type never referenced" else "Type never referenced"
    some ⟨⟨.class_, String.ofList name, line.number, reason⟩, 1, exported⟩

/-- The dead module that a line opens, if any. -/
def deadModule? (t : Toolchain) (project : List (List Line)) (lines : List Line) (index : Nat) (line : Line) :
    Option Finding := do
  if t ≠ rust then none
  else
    let name ← definedName? inlineModule line.code
    if name = "tests".toList ∨ isTestOrEntry name lines index ∨ 1 < references name project then none
    else some ⟨⟨.module, String.ofList name, line.number, "Inline module never referenced"⟩, 1, true⟩

/-- The dead types and modules of a file, line by line. -/
def deadTypes (t : Toolchain) (project : List (List Line)) (lines : List Line) : List Finding :=
  lines.zipIdx.flatMap fun (line, index) =>
    (deadClass? t project lines index line).toList ++ (deadModule? t project lines index line).toList

/-- The dead statements of a file. -/
def deadRuns (t : Toolchain) (lines : List Line) : List Finding :=
  (unreachable t lines).map fun run =>
    ⟨⟨.unreachable, s!"line {run.line}", run.line, "Statement follows an unconditional exit"⟩, run.length, true⟩

/-- The share of some lines in a total, in percent with two places. -/
def percentage (dead total : Nat) : Number :=
  if total = 0 then 0
  else ((Number.ofNat (min dead total) / Number.ofNat total) * 10000).round / 100

/-- How sure the findings of a file are. -/
def confidence (definitions runs : List Finding) : Confidence :=
  if (definitions ++ runs).isEmpty ∨ definitions.any (!·.exported) then .high
  else if definitions.any (·.exported) then .medium
  else .low

/-- How many findings are of a kind. -/
def countKind (kind : DeadKind) (findings : List Finding) : Nat := findings.countP fun f => f.item.itemType = kind

/-- The dead code of a file of a project. -/
def ofFile (t : Toolchain) (project : List (List Line)) (path : String) (lines : List Line) : FileDeadCode :=
  let definitions := deadFunctions t project lines ++ deadTypes t project lines
  let runs := deadRuns t lines
  let all := definitions ++ runs
  let deadLines := total (all.map (·.lines))
  let totalLines := lines.countP fun line => line.text.any fun c => !isBlank c
  { path, deadLines, totalLines, deadPercentage := percentage deadLines totalLines,
    deadFunctions := countKind .function all, deadClasses := countKind .class_ all, deadModules := countKind .module all,
    unreachableBlocks := runs.length, items := sortBy (fun a b => compare a.line b.line) (all.map (·.item)),
    confidence := confidence definitions runs }

end DeadCode

/-- The dead code of a project, file by file. -/
def analyzeDeadCode (t : Toolchain) (documents : List Document) : List FileDeadCode :=
  let scanned := documents.map fun d => (d.path, scan t d.content)
  let project := scanned.map (·.2)
  scanned.map fun (path, lines) => DeadCode.ofFile t project path lines

/-- The dead code of a project in a few numbers. -/
def summarizeDeadCode (files : List FileDeadCode) : DeadCodeSummary :=
  let sumOf (count : FileDeadCode → Nat) : Nat := total (files.map count)
  { totalFilesAnalyzed := files.length, filesWithDeadCode := files.countP fun f => !f.items.isEmpty,
    totalDeadLines := sumOf (·.deadLines), deadPercentage := DeadCode.percentage (sumOf (·.deadLines)) (sumOf (·.totalLines)),
    deadFunctions := sumOf (·.deadFunctions), deadClasses := sumOf (·.deadClasses), deadModules := sumOf (·.deadModules),
    unreachableBlocks := sumOf (·.unreachableBlocks) }

end QualityGate
