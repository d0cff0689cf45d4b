import TableGateway.Sql.Json.Function
import TableGateway.Sql.Moment.Function
import TableGateway.Sql.Operator

/-!
# Functions

The functions of single cells. Texts are taken in UTF-8 whatever the encoding of the database, and
most functions read a text up to its first NUL.
-/

namespace TableGateway.Sql

/-- The functions of cells that need all of their arguments. -/
inductive Function where
  | abs
  | buildOption
  | buildOptionUsed
  | changes
  | char
  | concat
  | concatWith
  | format
  | glob
  | hex
  | instr
  /-- A function of JSON. -/
  | json (f : JsonFunction)
  | lastInsertId
  | length
  | like
  | likelihood
  | likely
  | loadExtension
  | log
  | lower
  | max
  | min
  | misplaced
  /-- A function of moments, and where it stands if results must not change there. -/
  | moment (f : MomentFunction) (place : Option FixedPlace)
  | nullif
  | octetLength
  | quote (escapes : Bool)
  | random
  | randomBlob
  | replace
  | round
  | sign
  | soundex
  | sourceId
  | substr
  | subtype
  | totalChanges
  | trim (left right : Bool)
  | typeof
  | unhex
  | unicode
  | unistr
  | unlikely
  | upper
  | version
  | zeroBlob
  deriving DecidableEq, Repr

/-- What a connection remembers. -/
structure SessionFacts where
  /-- The number of rows that the last change affected. -/
  changes : Nat := 0
  /-- The number of rows that all changes affected. -/
  totalChanges : Nat := 0
  /-- The id of the row inserted last. -/
  inserted : Int64 := 0
  /-- Whether the letters of patterns have no case. -/
  foldedLike : Bool := true
  /-- The current moment, in thousandths of a second. -/
  now : Int := 212634028800000

namespace Function

/-- A function with its numbers of arguments, least and greatest. -/
structure Entry where
  name : String
  function : Function
  least : Nat
  most : Nat

/-- How many arguments a function takes that takes any number. -/
def anyNumber : Nat := 1000

/-- The functions by their names. -/
def entries : List Entry :=
  [⟨"abs", abs, 1, 1⟩, ⟨"changes", changes, 0, 0⟩, ⟨"char", char, 0, anyNumber⟩,
    ⟨"concat", concat, 1, anyNumber⟩, ⟨"concat_ws", concatWith, 2, anyNumber⟩,
    ⟨"format", format, 0, anyNumber⟩, ⟨"glob", glob, 2, 2⟩, ⟨"hex", hex, 1, 1⟩,
    ⟨"instr", instr, 2, 2⟩, ⟨"last_insert_rowid", lastInsertId, 0, 0⟩, ⟨"length", length, 1, 1⟩,
    ⟨"like", like, 2, 3⟩, ⟨"likelihood", likelihood, 2, 2⟩, ⟨"likely", likely, 1, 1⟩,
    ⟨"load_extension", loadExtension, 1, 2⟩, ⟨"lower", lower, 1, 1⟩,
    ⟨"ltrim", trim true false, 1, 2⟩, ⟨"match", misplaced, 2, 2⟩, ⟨"max", max, 2, anyNumber⟩,
    ⟨"min", min, 2, anyNumber⟩, ⟨"nullif", nullif, 2, 2⟩, ⟨"octet_length", octetLength, 1, 1⟩,
    ⟨"printf", format, 0, anyNumber⟩, ⟨"quote", quote false, 1, 1⟩, ⟨"random", random, 0, 0⟩,
    ⟨"randomblob", randomBlob, 1, 1⟩, ⟨"replace", replace, 3, 3⟩, ⟨"round", round, 1, 2⟩,
    ⟨"rtrim", trim false true, 1, 2⟩, ⟨"sign", sign, 1, 1⟩, ⟨"soundex", soundex, 1, 1⟩,
    ⟨"sqlite_compileoption_get", buildOption, 1, 1⟩,
    ⟨"sqlite_compileoption_used", buildOptionUsed, 1, 1⟩, ⟨"sqlite_log", log, 2, 2⟩,
    ⟨"sqlite_source_id", sourceId, 0, 0⟩, ⟨"sqlite_version", version, 0, 0⟩,
    ⟨"substr", substr, 2, 3⟩, ⟨"substring", substr, 2, 3⟩, ⟨"subtype", subtype, 1, 1⟩,
    ⟨"total_changes", totalChanges, 0, 0⟩, ⟨"trim", trim true true, 1, 2⟩, ⟨"typeof", typeof, 1, 1⟩,
    ⟨"unhex", unhex, 1, 2⟩, ⟨"unicode", unicode, 1, 1⟩, ⟨"unistr", unistr, 1, 1⟩,
    ⟨"unistr_quote", quote true, 1, 1⟩, ⟨"unlikely", unlikely, 1, 1⟩, ⟨"upper", upper, 1, 1⟩,
    ⟨"zeroblob", zeroBlob, 1, 1⟩] ++
  ((MomentFunction.entries anyNumber).map fun (name, f, least, most) =>
    ⟨name, moment f none, least, most⟩) ++
  (JsonFunction.entries anyNumber).map fun (name, f, least, most) => ⟨name, json f, least, most⟩

/-- The functions with a name. -/
def named (name : String) : List Entry :=
  entries.filter fun f => sameName f.name name

/-- Whether equal arguments give equal results within a statement. -/
def isPure : Function → Bool
  | random | randomBlob | changes | totalChanges | lastInsertId => false
  | _ => true

/-- Whether equal arguments give equal results at all times, unless the current moment is asked
for. -/
def isFixed : Function → Bool
  | moment f _ => !f.isCurrent
  | sourceId | version => false
  | f => f.isPure

/-- A function that stands where results must not change. -/
def placed (place : FixedPlace) : Function → Function
  | moment f _ => moment f (some place)
  | f => f

/-- Whether a function gives back its first argument and says how likely it is to be true. -/
def isHint : Function → Bool
  | likelihood | likely | unlikely => true
  | _ => false

/-! ### Numbers -/

/-- The number without its sign. -/
def absolute (e : Encoding) : Cell → Result Cell
  | .null => .ok .null
  | .int n =>
    if n = Int64.minValue then fail "integer overflow"
    else .ok (.int (.ofInt n.toInt.natAbs))
  | c =>
    let x := c.toReal e
    .ok (.ofReal (if x.compare? (.zero false) = some .lt then x.neg else x))

/-- The sign of a number, or of a text that is one. -/
def signOf (e : Encoding) (c : Cell) : Cell :=
  let number := match c with
    | .text _ => c.convert e .numeric
    | c => c
  match number with
  | .int n => .int (.ofInt n.toInt.sign)
  | .real x =>
    match x.compare? (.zero false) with
    | some .lt => .int (-1)
    | some .gt => .int 1
    | _ => .int 0
  | _ => .null

/-- Half of one. -/
def half : Binary64 := (Binary64.ofInt 1).div (.ofInt 2)

/-- A number rounded to a number of places. -/
def rounded (places : Nat) (x : Binary64) : Binary64 :=
  let big : Binary64 := .ofInt 0x10000000000000
  if x.compare? big = some .gt ∨ x.compare? big.neg = some .lt ∨ !x.isFinite then x
  else if places = 0 then
    let h := if x.compare? (.zero false) = some .lt then half.neg else half
    .ofInt ((x.add h).truncate?.getD 0)
  else
    let d := RealDigits.of (.places places) 26 x
    let text := (if d.negative then ['-'] else []) ++ positionalText .shortest places d
    (RealText.read (bytesOf (.ofList text))).value

/-- The least or the greatest of cells; null where one of them is null. -/
def extreme (e : Encoding) (collation : Collation) (greatest : Bool) (cells : List Cell) : Cell :=
  if cells.any Cell.isNull then .null
  else match cells with
    | [] => .null
    | c :: cs => cs.foldl (fun best d =>
        let o := Cell.order e collation best.plain d.plain
        if greatest then (if o == .lt then d else best) else (if o == .lt then best else d)) c

/-- The code of a letter's sound. -/
def soundOf (b : UInt8) : Nat :=
  let letter := upperByte b
  let groups : List (Nat × String) :=
    [(1, "BFPV"), (2, "CGJKQSXZ"), (3, "DT"), (4, "L"), (5, "MN"), (6, "R")]
  ((groups.find? fun (_, s) => (bytesOf s).contains letter).map Prod.fst).getD 0

/-- Whether a byte is a letter. -/
def isLetter (b : UInt8) : Bool :=
  let u := upperByte b
  0x41 ≤ u && u ≤ 0x5A

/-- The codes of the sounds of letters, without repeated ones. A vowel lets a sound be repeated. -/
def sounds : (previous : Nat) → Bytes → List Nat
  | _, [] => []
  | previous, b :: bs =>
    let n := soundOf b
    if !isLetter b || n = 0 then sounds 0 bs
    else if n = previous then sounds previous bs
    else n :: sounds n bs

/-- A text as its first letter and the codes of the sounds that follow. -/
def soundexText (utf8 : Bytes) : Bytes :=
  match (utf8.takeWhile (· != 0)).dropWhile (!isLetter ·) with
  | [] => bytesOf "?000"
  | b :: bs =>
    let codes := ((sounds (soundOf b) bs).take 3).map fun n => UInt8.ofNat (0x30 + n)
    upperByte b :: (codes ++ List.replicate (3 - codes.length) 0x30)

/-! ### Application -/

/-- Whether a cell matches a pattern, with an escape perhaps. -/
def matching (e : Encoding) (style : PatternStyle) (pattern text : Cell) : Result Cell :=
  let p := pattern.toUtf8 e
  if Pattern.maxLength < p.length then fail "LIKE or GLOB pattern too complex"
  else if pattern.isNull || text.isNull then .ok .null
  else .ok (.ofTruth (some (Pattern.isMatch style p (text.toUtf8 e))))

/-- The bytes of a cell as a blob; numbers are written in UTF-8. -/
def blobBytes (e : Encoding) (c : Cell) : Bytes :=
  match c with
  | .text bytes | .blob bytes => bytes
  | c => c.toUtf8 e

/-- What the engine has been built with, in the order of the alphabet. -/
def buildOptions : List String :=
  ["ATOMIC_INTRINSICS=1", "COMPILER=gcc-12.2.0", "DEFAULT_AUTOVACUUM", "DEFAULT_CACHE_SIZE=-2000",
    "DEFAULT_FILE_FORMAT=4", "DEFAULT_FOREIGN_KEYS", "DEFAULT_JOURNAL_SIZE_LIMIT=-1",
    "DEFAULT_MMAP_SIZE=0", "DEFAULT_PAGE_SIZE=4096", "DEFAULT_PCACHE_INITSZ=20",
    "DEFAULT_RECURSIVE_TRIGGERS", "DEFAULT_SECTOR_SIZE=4096", "DEFAULT_SYNCHRONOUS=2",
    "DEFAULT_WAL_AUTOCHECKPOINT=1000", "DEFAULT_WAL_SYNCHRONOUS=2", "DEFAULT_WORKER_THREADS=0",
    "DIRECT_OVERFLOW_READ", "ENABLE_API_ARMOR", "ENABLE_COLUMN_METADATA", "ENABLE_DBSTAT_VTAB",
    "ENABLE_FTS3", "ENABLE_FTS3_PARENTHESIS", "ENABLE_FTS5", "ENABLE_LOAD_EXTENSION",
    "ENABLE_MEMORY_MANAGEMENT", "ENABLE_RTREE", "ENABLE_STAT4", "MALLOC_SOFT_LIMIT=1024",
    "MAX_ATTACHED=10", "MAX_COLUMN=2000", "MAX_COMPOUND_SELECT=500", "MAX_DEFAULT_PAGE_SIZE=8192",
    "MAX_EXPR_DEPTH=1000", "MAX_FUNCTION_ARG=1000", "MAX_LENGTH=1000000000",
    "MAX_LIKE_PATTERN_LENGTH=50000", "MAX_MMAP_SIZE=0x7fff0000", "MAX_PAGE_COUNT=0xfffffffe",
    "MAX_PAGE_SIZE=65536", "MAX_SQL_LENGTH=1000000000", "MAX_TRIGGER_DEPTH=1000",
    "MAX_VARIABLE_NUMBER=32766", "MAX_VDBE_OP=250000000", "MAX_WORKER_THREADS=8",
    "MUTEX_PTHREADS", "SOUNDEX", "SYSTEM_MALLOC", "TEMP_STORE=1", "THREADSAFE=1", "USE_URI"]

/-- Whether a name is that of an option, with or without its value. -/
def isBuildOption (name : Bytes) : Bool :=
  let fold (bs : Bytes) : Bytes := bs.map upperByte
  let own := bytesOf "SQLITE_"
  let name := fold (name.takeWhile (· != 0))
  let name := if own.isPrefixOf name then name.drop own.length else name
  buildOptions.any fun o =>
    let o := bytesOf o
    name.isPrefixOf (fold o) && (o.drop name.length).head?.all (· == byte '=')

/-- The greatest number of bytes of a text or a blob. -/
def maxBytes : Int := 1000000000

/-- The value of a function to which it does not matter whether a text is known to be JSON. -/
def applyPlain (e : Encoding) (facts : SessionFacts) (f : Function) (args : List Cell) :
    Result Cell :=
  let utf8 (bytes : Bytes) : Result Cell := .ok (.ofUtf8 e bytes)
  match f, args with
  | abs, [c] => absolute e c
  | buildOption, [c] =>
    let n := ((c.toInt e).toInt).bmod 0x100000000
    .ok (if n < 0 then .null
      else ((buildOptions[n.toNat]?).map (Cell.ofString e)).getD .null)
  | buildOptionUsed, [c] =>
    .ok (if c.isNull then .null else .ofTruth (some (isBuildOption (c.toUtf8 e))))
  | changes, _ => .ok (.ofNat facts.changes)
  | totalChanges, _ => .ok (.ofNat facts.totalChanges)
  | lastInsertId, _ => .ok (.int facts.inserted)
  | char, cs =>
    utf8 (cs.flatMap fun c =>
      let n := (c.toInt e).toInt
      Encoding.utf8Bytes (if n < 0 ∨ 0x10FFFF < n then 0xFFFD else n.toNat))
  | concat, cs => utf8 (cs.flatMap fun c => c.toUtf8 e)
  | concatWith, sep :: cs =>
    if sep.isNull then .ok .null
    else utf8 (((cs.filter (!·.isNull)).map (·.toUtf8 e)).intersperse (sep.toUtf8 e)).flatten
  | format, cs => .ok (((Format.text? e cs).map (Cell.ofUtf8 e)).getD .null)
  | glob, [p, t] => matching e Pattern.star p t
  | like, [p, t] => matching e { Pattern.percent with folded := facts.foldedLike } p t
  | like, [p, t, esc] =>
    if Pattern.maxLength < (p.toUtf8 e).length then fail "LIKE or GLOB pattern too complex"
    else if esc.isNull then .ok .null
    else do
      let style ← Pattern.escaped (esc.toUtf8 e)
      matching e { style with folded := facts.foldedLike } p t
  | hex, [c] => utf8 (Quoted.hexText (blobBytes e c))
  | instr, [hay, needle] =>
    if hay.isNull || needle.isNull then .ok .null
    else
      let blobs := match hay, needle with
        | .blob _, .blob _ => true
        | _, _ => false
      let h := hay.toUtf8 e
      let n := needle.toUtf8 e
      .ok (.ofNat (if n.isEmpty then 1 else (Characters.find? (!blobs) n (h.length + 1) 1 h).getD 0))
  | length, [c] =>
    match c with
    | .null => .ok .null
    | .blob bytes => .ok (.ofNat bytes.length)
    | c => .ok (.ofNat (Characters.ofText (c.toUtf8 e)).length)
  | octetLength, [c] =>
    match c with
    | .null => .ok .null
    | c => .ok (.ofNat (c.toBytes e).length)
  | loadExtension, _ => fail "not authorized"
  | lower, [c] => if c.isNull then .ok .null else utf8 ((c.toUtf8 e).map lowerByte)
  | upper, [c] => if c.isNull then .ok .null else utf8 ((c.toUtf8 e).map upperByte)
  | moment f place, cs => f.apply e facts.now place cs
  | misplaced, _ => fail "unable to use function MATCH in the requested context"
  | quote escapes, [c] => utf8 (Quoted.literal e escapes c)
  | random, _ => .ok (.int 5577006791947779410)
  | randomBlob, [c] => .ok (.blob (List.replicate (Max.max 1 (c.toInt e).toInt).toNat 0))
  | replace, [c, p, r] =>
    if c.isNull || p.isNull then .ok .null
    else
      let pattern := p.toUtf8 e
      if pattern.head?.getD 0 == 0 then .ok c
      else if r.isNull then .ok .null
      else
        let text := c.toUtf8 e
        utf8 (Characters.replaced pattern (r.toUtf8 e) (text.length + 1) text)
  | round, c :: more =>
    if c.isNull || more.any Cell.isNull then .ok .null
    else
      let places := (more.head?.map fun p => (p.toInt e).toInt).getD 0
      .ok (.ofReal (rounded (Min.min 30 (Max.max 0 places)).toNat (c.toReal e)))
  | sign, [c] => .ok (signOf e c)
  | soundex, [c] => utf8 (soundexText (c.toUtf8 e))
  | substr, c :: start :: more =>
    if c.isNull || start.isNull || more.any Cell.isNull then .ok .null
    else
      let s := (start.toInt e).toInt
      let n := (more.head?.map fun p => (p.toInt e).toInt).getD maxBytes
      match c with
      | .blob bytes => .ok (.blob (Characters.slice bytes s n))
      | c => utf8 (Characters.slice (Characters.ofText (c.toUtf8 e)) s n).flatten
  | trim left right, c :: more =>
    if c.isNull || more.any Cell.isNull then .ok .null
    else
      let set := match more with
        | s :: _ => Characters.ofText (s.toUtf8 e)
        | [] => [[0x20]]
      utf8 (Characters.trimmed left right set (c.toUtf8 e))
  | typeof, [c] => .ok (.ofString e c.kind)
  | unhex, c :: more =>
    if c.isNull || more.any Cell.isNull then .ok .null
    else
      let skipped := (more.head?.map fun s => Encoding.codes (s.toUtf8 e)).getD []
      .ok (((Quoted.unhexed skipped (Encoding.codes (c.toUtf8 e))).map Cell.blob).getD .null)
  | unicode, [c] =>
    if c.isNull then .ok .null
    else match Pattern.codesOf (c.toUtf8 e) with
      | n :: _ => .ok (.ofNat n)
      | [] => .ok .null
  | unistr, [c] =>
    if c.isNull then .ok .null
    else
      let text := c.toUtf8 e
      match Quoted.unescaped? (text.length + 1) text with
      | some bytes => utf8 bytes
      | none => fail "invalid Unicode escape"
  | sourceId, _ =>
    .ok (.ofString e
      ("2025-11-28 17:28:25 281fc0e9afc38674b9b0991943b9e9d1e64c6cbdb133d35f6f5c87ff6af38a88"))
  | version, _ => .ok (.ofString e "3.51.1")
  | zeroBlob, [c] =>
    let n := (c.toInt e).toInt
    if maxBytes < n then fail "string or blob too big"
    else .ok (.blob (List.replicate n.toNat 0))
  | _, _ => .ok .null

/-- What tells a text that is known to be JSON from other cells. -/
def subtypeOf : Cell → Int64
  | .json _ => 74
  | _ => 0

/-- The value of a function. Those that give back an argument give it back as it is. -/
def apply (e : Encoding) (facts : SessionFacts) (collation : Collation) (f : Function)
    (args : List Cell) : Result Cell :=
  match f, args with
  | json f, cs => f.apply e cs
  | likely, c :: _ | unlikely, c :: _ | likelihood, c :: _ => .ok c
  | max, cs => .ok (extreme e collation true cs)
  | min, cs => .ok (extreme e collation false cs)
  | nullif, [c, d] => .ok (if Cell.order e collation c.plain d.plain == .eq then .null else c)
  | subtype, [c] => .ok (.int (subtypeOf c))
  | f, cs => applyPlain e facts f (cs.map Cell.plain)

end Function

/-! ### Choices -/

/-- The functions that choose among their arguments, which they do not all evaluate. -/
inductive Chooser where
  /-- The first argument that is not null. -/
  | present
  /-- The argument behind the first condition that holds. -/
  | condition
  deriving DecidableEq, Repr

namespace Chooser

/-- The functions that choose by their names, with their numbers of arguments. -/
def entries : List (String × Chooser × Nat × Nat) :=
  [("coalesce", present, 2, Function.anyNumber), ("ifnull", present, 2, 2),
    ("iif", condition, 2, Function.anyNumber), ("if", condition, 2, Function.anyNumber)]

/-- Whether a name is that of such a function for some number of arguments. -/
def isName (name : String) : Bool :=
  entries.any fun (n, _) => sameName n name

/-- The function with a name and a number of arguments. -/
def named? (name : String) (arity : Nat) : Option Chooser :=
  (entries.find? fun (n, _, least, most) =>
    sameName n name && least ≤ arity && arity ≤ most).map fun (_, f, _) => f

end Chooser

end TableGateway.Sql
