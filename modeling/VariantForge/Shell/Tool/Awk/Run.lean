import VariantForge.Shell.Tool.Awk.Number
import VariantForge.Shell.Tool.Awk.Reader
import VariantForge.Shell.Tool.Files

/-!
Running scripts of patterns and actions.
-/

namespace VariantForge.Shell.Awk

/-- A value: a number, a text, a text from the input that counts as a number if it looks like one, or
nothing yet. -/
inductive Value where
  | number (x : Real)
  | text (cs : List Char)
  | input (cs : List Char)
  | unset
  deriving Inhabited

/-- The elements of an array; those that were used last come first. -/
abbrev Elements := List (List Char × Value)

/-- What a parameter of a function stands for: a value, or an array. -/
inductive Slot where
  | value (v : Value)
  | array (key : String)
  deriving Inhabited

/-- A script at work. -/
structure State where
  disk : Disk
  mask : Nat := 0o022
  bindings : List (String × Value) := []
  arrays : List (String × Elements) := []
  slots : List (String × Slot) := []
  fresh : Nat := 0
  record : List Char := []
  fields : Array Value := #[]
  input : List Char := []
  isOpen : Bool := false
  operands : List String := []
  anyFile : Bool := false
  standard : List Char := []
  usesStandard : Bool := false
  effects : List Effect := []
  pipes : List (String × List Char) := []
  opened : List String := []
  readers : List (String × List Char) := []
  ranges : List Nat := []
  code : Nat := 0

/-- What ends a statement before its time. -/
inductive Stop where
  | next
  | exit
  | leave
  | again
  | back (v : Value)
  | fault (words : String)

/-- Operations of a script at work. -/
abbrev Run := ExceptT Stop (StateM State)

/-- Ends the script because of a fault. -/
def fault (words : String) : Run α := throw (.fault words)

/-- The number one or zero. -/
def truth (b : Bool) : Value := .number (number (if b then 1 else 0))

/-- Whether a text is a number with nothing but blanks around it, and which. -/
def numeral? (cs : List Char) : Option Real :=
  let isName (c : Char) : Bool := c.isAlpha && c != 'e' && c != 'E'
  if cs.any isName then none
  else match Real.leading? Real.double cs with
    | some (x, rest) => if rest.all Integer.isBlank then some x else none
    | none => none

/-- The number that a value stands for. -/
def Value.toNumber : Value → Real
  | .number x => x
  | .text cs | .input cs => ((Real.leading? Real.double cs).map (·.1)).getD (.finite false 0)
  | .unset => .finite false 0

/-- Fills the next conversion of a format in with a number. -/
def formatted (format : List Char) (x : Real) : List Char :=
  match format with
  | '%' :: rest =>
    let flags := rest.takeWhile "#-+ 0".toList.contains
    let rest := rest.drop flags.length
    let (width, rest) := Number.spanDigits rest
    let (precision, rest) : Option Nat × List Char := match rest with
      | '.' :: more => let (ds, rest) := Number.spanDigits more; (some (Number.digitsValue ds), rest)
      | rest => (none, rest)
    match rest with
    | letter :: after =>
      let c : Conversion := { flags, width := Number.digitsValue width, precision, letter }
      let cs := if "diouxX".toList.contains letter then c.integer (((rational? x).map truncated).getD 0)
        else c.real Real.double.lead x
      cs ++ after
    | [] => format
  | _ => format

/-- The text of a number: as a whole number if it is one, else by a format. -/
def numberText (format : List Char) (x : Real) : List Char :=
  match rational? x with
  | some r =>
    if r.den = 1 ∧ r.num.natAbs < 9223372036854775808 then (toString r.num).toList else formatted format x
  | none => formatted format x

/-- The variables that count lines and fields or say how they are made are kept with the others. -/
def global (name : String) : Run Value := do
  let s ← get
  if name = "NF" then return .number (number s.fields.size)
  return ((s.bindings.find? (·.1 == name)).map (·.2)).getD .unset

/-- The text of a variable. -/
def setting (name : String) (otherwise : String) : Run (List Char) := do
  match ← global name with
  | .text cs | .input cs => return cs
  | .number x => return numberText "%.6g".toList x
  | .unset => return otherwise.toList

/-- The text of a value. -/
def textOf (v : Value) : Run (List Char) := do
  match v with
  | .text cs | .input cs => return cs
  | .unset => return []
  | .number x => return numberText (← setting "CONVFMT" "%.6g") x

/-- The text of a value that is printed. -/
def shownText (v : Value) : Run (List Char) := do
  match v with
  | .number x => return numberText (← setting "OFMT" "%.6g") x
  | v => textOf v

/-- Whether a value counts as true. -/
def isTrue : Value → Bool
  | .number x => !isZero x
  | .text cs => !cs.isEmpty
  | .input cs => match numeral? cs with
    | some x => !isZero x
    | none => !cs.isEmpty
  | .unset => false

/-- The fields of a text. -/
def fieldsOf (separator cs : List Char) : List (List Char) :=
  let isGap (c : Char) : Bool := c == ' ' || c == '\t' || c == '\n'
  if separator = [' '] then
    (cs.splitBy fun a b => isGap a == isGap b).filter fun w => !(w.head?.any isGap)
  else if cs.isEmpty then []
  else if separator.isEmpty then cs.map ([·])
  else match separator with
    | [c] => cs.splitOn c
    | _ =>
      match Regular.ofText awkForm separator with
      | .error _ => [cs]
      | .ok r => pieces r cs.toArray (cs.length + 1) 0 0
where
  /-- The parts of a text between parts that fit. -/
  pieces (r : Regular) (text : Array Char) : Nat → Nat → Nat → List (List Char)
    | 0, start, _ => [Regular.between text start text.size]
    | fuel + 1, start, at_ =>
      match r.fit? text at_ with
      | none => [Regular.between text start text.size]
      | some f =>
        if f.stop = f.start then
          if text.size ≤ f.start then [Regular.between text start text.size] else pieces r text fuel start (f.start + 1)
        else Regular.between text start f.start :: pieces r text fuel f.stop f.stop

/-- Makes a text the record and splits it. -/
def setRecord (cs : List Char) : Run Unit := do
  let separator ← setting "FS" " "
  let found := fieldsOf separator cs
  let paragraphs := (← setting "RS" "\n").isEmpty
  let found := if paragraphs && separator != [' '] then found.flatMap (·.splitOn '\n') else found
  modify fun s => { s with record := cs, fields := (found.map Value.input).toArray }

/-- Makes the record anew from its fields. -/
def joinFields : Run Unit := do
  let between ← setting "OFS" " "
  let texts ← (← get).fields.toList.mapM textOf
  modify fun s => { s with record := List.intercalate between texts }

/-- Sets how many fields there are. -/
def setFieldCount (n : Nat) : Run Unit := do
  modify fun s =>
    { s with fields := (s.fields.extract 0 n) ++ (List.replicate (n - s.fields.size) (Value.input [])).toArray }
  joinFields

/-- The most fields that there may be. -/
def fieldLimit : Nat := 32767

/-- Sets a variable. -/
def setVariable (name : String) (v : Value) : Run Unit := do
  if name = "NF" then setFieldCount (((rational? v.toNumber).map fun r => r.floor.toNat).getD 0)
  else modify fun s =>
    { s with bindings := (name, v) :: s.bindings.filter (·.1 != name) }

/-- The key of the array that a name stands for. -/
def arrayKey (name : String) : Run String := do
  let s ← get
  match s.slots.find? (·.1 == name) with
  | some (_, .array key) => return key
  | some (_, .value .unset) =>
    let key := s!" {s.fresh}"
    set { s with
      fresh := s.fresh + 1, slots := s.slots.map fun (n, slot) => (n, if n == name then Slot.array key else slot) }
    return key
  | some _ => fault s!"type error"
  | none => return name

/-- The elements of an array. -/
def elements (key : String) : Run Elements := return (((← get).arrays.find? (·.1 == key)).map (·.2)).getD []

/-- Sets the elements of an array. -/
def setElements (key : String) (es : Elements) : Run Unit :=
  modify fun s => { s with arrays := (key, es) :: s.arrays.filter (·.1 != key) }

/-- Sets an element of an array. -/
def setElement (key : String) (at_ : List Char) (v : Value) : Run Unit := do
  setElements key ((at_, v) :: (← elements key).filter (·.1 != at_))

/-- The place of a text in the order in which the elements of an array are gone over. -/
def rank (cs : List Char) : Nat :=
  (cs.foldl (fun (h : UInt32) c => (h ^^^ c.toNat.toUInt32) * 16777619) 2166136261).toNat % 64

/-- The next part of a text up to where records end, and what comes after it. -/
def nextRecord (separator cs : List Char) : Option (List Char × List Char) :=
  match separator with
  | [] =>
    let cs := cs.dropWhile (· == '\n')
    if cs.isEmpty then none else some (paragraph [] cs)
  | [c] =>
    if cs.isEmpty then none
    else
      let front := cs.takeWhile (· != c)
      some (front, cs.drop (front.length + 1))
  | _ =>
    if cs.isEmpty then none
    else match Regular.ofText awkForm separator with
      | .error _ => some (cs, [])
      | .ok r =>
        let text := cs.toArray
        match r.fit? text 0 with
        | some f => if f.start < f.stop then some (cs.take f.start, cs.drop f.stop) else some (cs, [])
        | none => some (if cs.getLast? == some '\n' then cs.dropLast else cs, [])
where
  /-- A text up to a blank line, and what comes after all blank lines there. -/
  paragraph (done : List Char) : List Char → List Char × List Char
    | '\n' :: '\n' :: rest => (done.reverse, rest.dropWhile (· == '\n'))
    | ['\n'] => (done.reverse, [])
    | c :: rest => paragraph (c :: done) rest
    | [] => (done.reverse, [])

/-- A text with its escapes, as in an operand that sets a variable. -/
def escaped (cs : List Char) : List Char := ((quoted (cs.length + 2) [] (cs ++ ['"'])).map (·.1)).getD cs

/-- An operand that sets a variable: the name and the text. -/
def assigning? (operand : String) : Option (String × List Char) :=
  let cs := operand.toList
  let name := cs.takeWhile Regular.isWord
  match cs.drop name.length with
  | '=' :: value =>
    if name.head?.any fun c => !c.isDigit then some (String.ofList name, escaped value) else none
  | _ => none

/-- The text of a file. -/
def fileText (file : String) : Run (Option (List Char)) := do
  let s ← get
  if Tool.isInput file then
    set { s with standard := [], usesStandard := true }
    return some s.standard
  else if file = "/dev/null" then return some []
  else match s.disk.read (Octets.toString file) with
    | .ok bytes => return some (Octets.ofBytes bytes).toList
    | .error f =>
      match Tool.reasonOf f with
      | .isDirectory => return none
      | r => fault s!"cannot open \"{file}\" ({reasonText r})"

/-- Adds one to a variable. -/
def countUp (name : String) : Run Unit := do
  setVariable name (.number (add (← global name).toNumber (number 1)))

/-- The next line of the input, if there is one; `fuel` bounds how many files are gone over. -/
def nextInput : Nat → Run (Option (List Char))
  | 0 => return none
  | fuel + 1 => do
    let s ← get
    if s.isOpen then
      match nextRecord (← setting "RS" "\n") s.input with
      | some (line, rest) =>
        modify fun s => { s with input := rest }
        countUp "NR"
        countUp "FNR"
        return some line
      | none =>
        modify fun s => { s with isOpen := false }
        nextInput fuel
    else
      match s.operands with
      | [] =>
        if s.anyFile then return none
        else
          set { s with operands := ["-"], anyFile := true }
          nextInput fuel
      | operand :: rest =>
        set { s with operands := rest }
        match assigning? operand with
        | some (name, value) =>
          setVariable name (.input value)
          nextInput fuel
        | none =>
          if operand.isEmpty then nextInput fuel
          else
            let text ← fileText operand
            modify fun s => { s with input := text.getD [], isOpen := true, anyFile := true }
            if operand != "-" || (← global "FILENAME") matches .unset then
              setVariable "FILENAME" (.text (if operand = "-" then [] else operand.toList))
            setVariable "FNR" (.number (number 0))
            nextInput fuel

/-- The next line of the input. -/
def readLine : Run (Option (List Char)) := do nextInput (2 * (← get).operands.length + 6)

/-- Writes a text to the output. -/
def write (isError : Bool) (cs : List Char) : Run Unit :=
  modify fun s => { s with effects := (if isError then .error (String.ofList cs) else .output (String.ofList cs)) :: s.effects }

/-- Writes a text to a file, which is begun anew when it is first written to unless that is not wanted. -/
def writeTo (file : String) (extends_ : Bool) (cs : List Char) : Run Unit := do
  if file = "/dev/stdout" || file = "-" then write false cs
  else if file = "/dev/stderr" then write true cs
  else
    let s ← get
    let c : ToolCall := { tool := "awk", arguments := [], disk := s.disk, mask := s.mask }
    let later := extends_ || s.opened.contains file
    match Tool.save c s.disk file later (Octets.bytes (String.ofList cs)) with
    | .ok disk => set { s with disk, opened := file :: s.opened.filter (· != file) }
    | .error r => fault s!"cannot open \"{file}\" for output ({r.text})"

/-- Lets a command of the shell read a text, after all that was written before. -/
def startCommand (command : String) (input : Option (List Char)) : Run Unit :=
  modify fun s => { s with
    effects := .start ["sh", "-c", command] (input.map String.ofList) :: s.effects }

/-- Lets a command read what was sent to it. -/
def closePipe (command : String) : Run Unit := do
  match (← get).pipes.find? (·.1 == command) with
  | none => return
  | some (_, cs) =>
    modify fun s => { s with pipes := s.pipes.filter (·.1 != command) }
    startCommand command (some cs)

/-- A text by a format, with values for its conversions. If there are too few, the text up to there is the
error. -/
def format : Nat → List Char → List Char → List Value → Run (Except (List Char) (List Char))
  | 0, done, _, _ => return .ok done.reverse
  | _, done, [], _ => return .ok done.reverse
  | fuel + 1, done, '%' :: '%' :: rest, vs => format fuel ('%' :: done) rest vs
  | fuel + 1, done, '%' :: rest, vs => do
    let count (cs : List Char) (vs : List Value) : Option Int × List Char × List Value :=
      match cs with
      | '*' :: rest => (some (((vs.head?.bind fun v => rational? v.toNumber).map truncated).getD 0), rest, vs.drop 1)
      | cs => let (ds, rest) := Number.spanDigits cs; (if ds.isEmpty then none else some (Number.digitsValue ds), rest, vs)
    let flags := rest.takeWhile "#-+ 0".toList.contains
    let (width, rest, vs) := count (rest.drop flags.length) vs
    let (precision, rest, vs) : Option Int × List Char × List Value := match rest with
      | '.' :: more => let (n, rest, vs) := count more vs; (some (n.getD 0), rest, vs)
      | rest => (none, rest, vs)
    let rest := rest.dropWhile "hlL".toList.contains
    match rest, vs with
    | [], _ => return .ok (done.reverse ++ ['%'])
    | _, [] => return .error done.reverse
    | letter :: rest, v :: vs =>
      let c := ({ flags, letter } : Conversion).withWidth (width.getD 0)
      let c := match precision with
        | some n => c.withPrecision n
        | none => c
      let whole : Int := ((rational? v.toNumber).map truncated).getD 0
      let put (cs : List Char) : Run (Except (List Char) (List Char)) := format fuel (cs.reverse ++ done) rest vs
      match letter with
      | 'd' | 'i' => put (c.integer (Integer.clamp whole))
      | 'o' | 'x' | 'X' | 'u' => put (c.natural (whole.emod 18446744073709551616).toNat)
      | 'c' =>
        match v with
        | .number _ => put (c.field [Escape.byte (whole.emod 256).toNat])
        | v => put (c.field [(← textOf v).head?.getD '\x00'])
      | 's' => put (c.text (← textOf v))
      | 'e' | 'E' | 'f' | 'F' | 'g' | 'G' | 'a' | 'A' => put (c.real Real.double.lead v.toNumber)
      | _ => fault s!"bad conversion"
  | fuel + 1, done, c :: rest, vs => format fuel (c :: done) rest vs

/-- Ends the script since a format asks for more values than there are. -/
def tooFew (function : String) (format : List Char) : Run α := do
  let file ← textOf (← global "FILENAME")
  let fnr ← textOf (.number (← global "FNR").toNumber)
  let nr ← textOf (.number (← global "NR").toNumber)
  fault ("run time error: not enough arguments passed to " ++ function ++ "(\"" ++ String.ofList format ++
    "\")\n\tFILENAME=\"" ++ String.ofList file ++ "\" FNR=" ++ String.ofList fnr ++ " NR=" ++ String.ofList nr)

/-- Compares two values: as numbers if both look like numbers, else as texts. -/
def compared (op : Comparison) (a b : Value) : Run Bool := do
  let looks (v : Value) : Option Real := match v with
    | .number x => some x
    | .input cs => numeral? cs
    | .unset => some (.finite false 0)
    | .text _ => none
  let (less, same) ← match looks a, looks b with
    | some x, some y => pure (lessThan x y, sameNumber x y)
    | _, _ => do
      let s ← textOf a
      let t ← textOf b
      pure (compare s t == .lt, s == t)
  return match op with
    | .less => less
    | .lessEqual => less || same
    | .equal => same
    | .notEqual => !same
    | .greater => !less && !same
    | .greaterEqual => !less

/-- What a sign makes of two numbers. -/
def reckon (op : Arithmetic) (a b : Real) : Real :=
  match op with
  | .add => add a b
  | .subtract => add a (negated b)
  | .multiply => multiply a b
  | .divide => divide a b
  | .remainder => remainder a b
  | .power => power a b

/-- What is put in the place of a fit: a sign for all of it may have a backslash before it. -/
def filled (fit : List Char) : List Char → List Char
  | '\\' :: '&' :: rest => '&' :: filled fit rest
  | '\\' :: '\\' :: rest => '\\' :: filled fit rest
  | '&' :: rest => fit ++ filled fit rest
  | c :: rest => c :: filled fit rest
  | [] => []

/-- Puts something in the place of the first fit or of all of them; gives the text and how many there
were. `barred` is a place where a blank fit does not count. -/
def replaced (r : Regular) (all : Bool) (by_ : List Char) (text : Array Char) :
    Nat → Nat → Option Nat → List Char × Nat
  | 0, at_, _ => (Regular.between text at_ text.size, 0)
  | fuel + 1, at_, barred =>
    match r.fit? text at_ with
    | none => (Regular.between text at_ text.size, 0)
    | some f =>
      let before := Regular.between text at_ f.start
      let skipped := f.stop = f.start && barred == some f.start
      let put := if skipped then [] else filled (Regular.between text f.start f.stop) by_
      let count := if skipped then 0 else 1
      if !all then (before ++ put ++ Regular.between text f.stop text.size, 1)
      else if f.stop = f.start then
        if text.size ≤ f.start then (before ++ put, count)
        else
          let (rest, n) := replaced r all by_ text fuel (f.start + 1) none
          (before ++ put ++ Regular.between text f.start (f.start + 1) ++ rest, n + count)
      else
        let (rest, n) := replaced r all by_ text fuel f.stop (some f.stop)
        (before ++ put ++ rest, n + count)

/-- The part of a text from a place on, of some length, both being rounded to whole numbers. -/
def part (cs : List Char) (start : Real) (size : Option Real) : List Char :=
  let rounded (x : Rat) : Int := (x + 1 / 2).floor
  match rational? start with
  | none => []
  | some m =>
    let first := rounded m
    let stop : Int := match size with
      | none => cs.length + 1
      | some n => match rational? n with
        | some n => rounded (m + n)
        | none => if n.isNegative then first else cs.length + 1
    let low := max first 1
    (cs.drop (low - 1).toNat).take (stop - low).toNat

mutual

/-- The value of an expression. -/
def eval (p : Script) : Nat → Expr → Run Value
  | 0, _ => throw (.fault "script runs too long")
  | fuel + 1, e => do
    match e with
    | .number cs => return .number (((Real.leading? Real.double cs).map (·.1)).getD (.finite false 0))
    | .text cs => return .text cs
    | .pattern r => return truth (r.fitsIn (← get).record)
    | .variable name =>
      match (← get).slots.find? (·.1 == name) with
      | some (_, .value v) => return v
      | some (_, .array _) => return .unset
      | none => global name
    | .field index =>
      let n := ((rational? (← eval p fuel index).toNumber).map truncated).getD 0
      let s ← get
      if n = 0 then return .input s.record
      else return (s.fields[n.toNat - 1]?).getD .unset
    | .element name subscripts =>
      let at_ ← subscript p fuel subscripts
      let key ← arrayKey name
      let es ← elements key
      match es.find? (·.1 == at_) with
      | some (_, v) =>
        setElement key at_ v
        return v
      | none =>
        setElement key at_ .unset
        return .unset
    | .assign op target value =>
      match op with
      | none =>
        let v ← eval p fuel value
        store p fuel target v
        return v
      | some op =>
        let b ← eval p fuel value
        let a ← eval p fuel target
        let v := Value.number (reckon op a.toNumber b.toNumber)
        store p fuel target v
        return v
    | .conditional test yes no =>
      if isTrue (← eval p fuel test) then eval p fuel yes else eval p fuel no
    | .both a b =>
      if isTrue (← eval p fuel a) then return truth (isTrue (← eval p fuel b)) else return truth false
    | .either a b =>
      if isTrue (← eval p fuel a) then return truth true else return truth (isTrue (← eval p fuel b))
    | .not a => return truth (!isTrue (← eval p fuel a))
    | .minus a => return .number (negated (← eval p fuel a).toNumber)
    | .plus a => return .number (← eval p fuel a).toNumber
    | .inside subscripts array =>
      let at_ ← subscript p fuel subscripts
      return truth ((← elements (← arrayKey array)).any (·.1 == at_))
    | .fits isNegated a b =>
      let cs ← textOf (← eval p fuel a)
      let r ← regularOf p fuel b
      return truth (r.fitsIn cs != isNegated)
    | .compare op a b =>
      let x ← eval p fuel a
      let y ← eval p fuel b
      return truth (← compared op x y)
    | .join a b =>
      let x ← textOf (← eval p fuel a)
      let y ← textOf (← eval p fuel b)
      return .text (x ++ y)
    | .arithmetic op a b =>
      let x ← eval p fuel a
      let y ← eval p fuel b
      return .number (reckon op x.toNumber y.toNumber)
    | .step first down target =>
      let old := (← eval p fuel target).toNumber
      let new := add old (number (if down then -1 else 1))
      store p fuel target (.number new)
      return .number (if first then new else old)
    | .group es =>
      match es with
      | [e] => eval p fuel e
      | es => return .text (← subscript p fuel es)
    | .nextLine target file =>
      let line ← match file with
        | none => readLine
        | some f => do
          let name := String.ofList (← textOf (← eval p fuel f))
          let s ← get
          let known := (s.readers.find? (·.1 == name)).map (·.2)
          let text ← match known with
            | some cs => pure (some cs)
            | none =>
              if Tool.isInput name || name = "/dev/null" || s.disk.isFile (Octets.toString name) then fileText name
              else pure none
          match text with
          | none => return .number (number (-1))
          | some cs =>
            let found := nextRecord (← setting "RS" "\n") cs
            let rest := (found.map (·.2)).getD []
            modify fun s => { s with readers := (name, rest) :: s.readers.filter (·.1 != name) }
            if target.isNone && found.isSome then countUp "NR"
            pure (found.map (·.1))
      match line with
      | none => return .number (number 0)
      | some cs =>
        match target with
        | none => setRecord cs
        | some t => store p fuel t (.input cs)
        return .number (number 1)
    | .call name es =>
      match p.functions.find? (·.name == name) with
      | none => fault s!"function {name} never defined"
      | some f =>
        let slots ← slotsOf p fuel f.parameters es
        let before := (← get).slots
        modify fun s => { s with slots }
        let result ← tryCatch (do
            perform p fuel f.body
            pure (Except.ok Value.unset))
          fun e => return match e with
            | .back v => Except.ok v
            | e => Except.error e
        let inner := (← get).slots
        modify fun s => { s with slots := before }
        -- a name that became an array inside stays one
        for (e, name) in es.zip f.parameters do
          match e, inner.find? (·.1 == name) with
          | .variable outer, some (_, .array key) =>
            modify fun s => { s with slots := s.slots.map fun slot => match slot with
              | (n, .value .unset) => if n == outer then (n, .array key) else slot
              | slot => slot }
          | _, _ => pure ()
        match result with
        | .ok v => return v
        | .error e => throw e
    | .builtin name es => callBuiltin p fuel name es
  termination_by structural fuel => fuel

/-- The text of subscripts. -/
def subscript (p : Script) : Nat → List Expr → Run (List Char)
  | 0, _ => return []
  | fuel + 1, es => do
    match es with
    | [] => return []
    | [e] => textOf (← eval p fuel e)
    | e :: rest =>
      let first ← textOf (← eval p fuel e)
      let between ← setting "SUBSEP" "\x1c"
      return first ++ between ++ (← subscript p fuel rest)
  termination_by structural fuel => fuel

/-- What the parameters of a function stand for. -/
def slotsOf (p : Script) : Nat → List String → List Expr → Run (List (String × Slot))
  | 0, _, _ => return []
  | fuel + 1, names, es => do
    match names, es with
    | [], _ => return []
    | name :: names, [] => return (name, .value .unset) :: (← slotsOf p fuel names [])
    | name :: names, e :: es =>
      let slot ← match e with
        | .variable outer => do
          let s ← get
          match s.slots.find? (·.1 == outer) with
          | some (_, slot) => pure slot
          | none =>
            if s.bindings.any (·.1 == outer) || outer = "NF" then pure (Slot.value (← global outer))
            else pure (Slot.array outer)
        | e => do pure (Slot.value (← eval p fuel e))
      return (name, slot) :: (← slotsOf p fuel names es)
  termination_by structural fuel => fuel

/-- The values of expressions. -/
def evalAll (p : Script) : Nat → List Expr → Run (List Value)
  | 0, _ => return []
  | fuel + 1, es => do
    match es with
    | [] => return []
    | e :: rest =>
      let v ← eval p fuel e
      return v :: (← evalAll p fuel rest)
  termination_by structural fuel => fuel

/-- The regular expression that an expression stands for. -/
def regularOf (p : Script) : Nat → Expr → Run Regular
  | 0, _ => throw (.fault "script runs too long")
  | fuel + 1, e => do
    match e with
    | .pattern r => return r
    | e =>
      let cs ← textOf (← eval p fuel e)
      match Regular.ofText awkForm cs with
      | .ok r => return r
      | .error f => fault ("regular expression compile failed (" ++ f.message ++ ")\n" ++ String.ofList cs)
  termination_by structural fuel => fuel

/-- Sets what an expression stands for. -/
def store (p : Script) : Nat → Expr → Value → Run Unit
  | 0, _, _ => return
  | fuel + 1, target, v => do
    match target with
    | .variable name =>
      let s ← get
      if s.slots.any (·.1 == name) then
        set { s with slots := s.slots.map fun (n, slot) => (n, if n == name then Slot.value v else slot) }
      else setVariable name v
    | .field index =>
      let n := (((rational? (← eval p fuel index).toNumber).map truncated).getD 0).toNat
      if n = 0 then setRecord (← textOf v)
      else
        if fieldLimit < n then fault s!"program limit exceeded: maximum number of fields size={fieldLimit}"
        let size := (← get).fields.size
        modify fun s => { s with fields := s.fields ++ (List.replicate (n - size) (Value.input [])).toArray }
        modify fun s => { s with fields := s.fields.setIfInBounds (n - 1) v }
        joinFields
    | .element name subscripts =>
      let at_ ← subscript p fuel subscripts
      setElement (← arrayKey name) at_ v
    | .group [e] => store p fuel e v
    | _ => return
  termination_by structural fuel => fuel

/-- The value of a function that every script has. -/
def callBuiltin (p : Script) : Nat → String → List Expr → Run Value
  | 0, _, _ => throw (.fault "script runs too long")
  | fuel + 1, name, es => do
    let whole (n : Nat) : Value := .number (number n)
    match name, es with
    | "length", [] => return whole (← get).record.length
    | "length", [.variable v] =>
      let s ← get
      let isArray := match s.slots.find? (·.1 == v) with
        | some (_, .array _) => true
        | some _ => false
        | none => s.arrays.any (·.1 == v)
      if isArray then return whole (← elements (← arrayKey v)).length
      else return whole (← textOf (← eval p fuel (.variable v))).length
    | "split", e :: .variable array :: rest =>
      let cs ← textOf (← eval p fuel e)
      let parts ← match rest with
        | [] => do pure (fieldsOf (← setting "FS" " ") cs)
        | .pattern r :: _ =>
          pure (if cs.isEmpty then [] else fieldsOf.pieces r cs.toArray (cs.length + 1) 0 0)
        | e :: _ => do pure (fieldsOf (← textOf (← eval p fuel e)) cs)
      let key ← arrayKey array
      setElements key (parts.zipIdx.map fun e => ((toString (e.2 + 1)).toList, Value.input e.1))
      return whole parts.length
    | "sub", r :: by_ :: rest | "gsub", r :: by_ :: rest =>
      let pattern ← regularOf p fuel r
      let replacement ← textOf (← eval p fuel by_)
      let target := (rest.head?).getD (.field (.number ['0']))
      let text := (← textOf (← eval p fuel target)).toArray
      let (cs, n) := replaced pattern (name == "gsub") replacement text (text.size + 2) 0 none
      if 0 < n then store p fuel target (.text cs)
      return whole n
    | "match", [e, r] =>
      let cs ← textOf (← eval p fuel e)
      let pattern ← regularOf p fuel r
      let (start, size) : Int × Int := match pattern.fit? cs.toArray 0 with
        | some f => (f.start + 1, f.stop - f.start)
        | none => (0, -1)
      setVariable "RSTART" (.number (number start))
      setVariable "RLENGTH" (.number (number size))
      return .number (number start)
    | name, es =>
      let vs ← evalAll p fuel es
      match name, vs with
      | "length", [v] => return whole (← textOf v).length
      | "substr", [s, m] => return .text (part (← textOf s) m.toNumber none)
      | "substr", [s, m, n] => return .text (part (← textOf s) m.toNumber (some n.toNumber))
      | "index", [s, t] =>
        let s ← textOf s
        let t ← textOf t
        let found := (List.range (s.length + 1)).find? fun k => t.isPrefixOf (s.drop k)
        return whole (if t.isEmpty then 0 else found.elim 0 (· + 1))
      | "tolower", [v] => return .text ((← textOf v).map Char.toLower)
      | "toupper", [v] => return .text ((← textOf v).map Char.toUpper)
      | "sprintf", f :: vs =>
        let cs ← textOf f
        match ← format (cs.length + 1) [] cs vs with
        | .ok cs => return .text cs
        | .error _ => tooFew "sprintf" cs
      | "atan2", [y, x] =>
        return .number (match rational? y.toNumber, rational? x.toNumber with
          | some y, some x => number (angle y x)
          | _, _ => .nan false)
      | "close", [v] =>
        let file := String.ofList (← textOf v)
        modify fun s => { s with
          opened := s.opened.filter (· != file), readers := s.readers.filter (·.1 != file) }
        closePipe file
        return whole 0
      | "system", [v] =>
        startCommand (String.ofList (← textOf v)) none
        return whole 0
      | "rand", _ => return whole 0
      | "srand", _ | "fflush", _ => return whole 0
      | name, [v] => return .number (function name v.toNumber)
      | name, _ => fault s!"wrong number of arguments in call to {name}"
  termination_by structural fuel => fuel

/-- Performs statements one after the other. -/
def perform (p : Script) : Nat → List Statement → Run Unit
  | 0, _ => throw (.fault "script runs too long")
  | fuel + 1, ss => do
    match ss with
    | [] => return
    | s :: rest =>
      act p fuel s
      perform p fuel rest
  termination_by structural fuel => fuel

/-- Sends a text to where it is printed. -/
def send (p : Script) : Nat → Option Target → List Char → Run Unit
  | 0, _, _ => return
  | fuel + 1, target, cs => do
    match target with
    | none => write false cs
    | some (.write e) => writeTo (String.ofList (← textOf (← eval p fuel e))) false cs
    | some (.extend_ e) => writeTo (String.ofList (← textOf (← eval p fuel e))) true cs
    | some (.pipe e) =>
      let command := String.ofList (← textOf (← eval p fuel e))
      modify fun s =>
        let before := ((s.pipes.find? (·.1 == command)).map (·.2)).getD []
        { s with pipes := s.pipes.filter (·.1 != command) ++ [(command, before ++ cs)] }
  termination_by structural fuel => fuel

/-- Performs a statement. -/
def act (p : Script) : Nat → Statement → Run Unit
  | 0, _ => throw (.fault "script runs too long")
  | fuel + 1, s => do
    match s with
    | .expression e =>
      let _ ← eval p fuel e
      return
    | .print es target =>
      let close ← setting "ORS" "\n"
      if es.isEmpty then send p fuel target ((← get).record ++ close)
      else
        let vs ← evalAll p fuel es
        let between ← setting "OFS" " "
        send p fuel target (List.intercalate between (← vs.mapM shownText) ++ close)
    | .format es target =>
      let vs ← evalAll p fuel es
      match vs with
      | [] => fault "printf: no arguments"
      | f :: vs =>
        let cs ← textOf f
        match ← format (cs.length + 1) [] cs vs with
        | .ok out => send p fuel target out
        | .error out =>
          send p fuel target out
          tooFew "printf" cs
    | .choice test yes no =>
      if isTrue (← eval p fuel test) then act p fuel yes
      else match no with
        | some s => act p fuel s
        | none => return
    | .while_ test body =>
      if isTrue (← eval p fuel test) then
        if ← turn p fuel body then act p fuel (.while_ test body)
    | .doWhile body test =>
      if ← turn p fuel body then
        if isTrue (← eval p fuel test) then act p fuel (.doWhile body test)
    | .for_ start test step body =>
      if let some s := start then act p fuel s
      let go ← match test with
        | some e => do pure (isTrue (← eval p fuel e))
        | none => pure true
      if go then
        if ← turn p fuel body then
          if let some s := step then act p fuel s
          act p fuel (.for_ none test step body)
    | .forIn name array body =>
      let es ← elements (← arrayKey array)
      each p fuel name body ((es.map (·.1)).mergeSort fun a b => rank a ≤ rank b)
    | .block ss => perform p fuel ss
    | .next => throw .next
    | .exit code =>
      if let some e := code then
        let v ← eval p fuel e
        let code := (((rational? v.toNumber).map fun r => (truncated r).emod 256).getD 0).toNat
        modify fun s => { s with code }
      throw .exit
    | .back value =>
      match value with
      | some e => throw (.back (← eval p fuel e))
      | none => throw (.back .unset)
    | .leave => throw .leave
    | .again => throw .again
    | .delete array subscripts =>
      let key ← arrayKey array
      match subscripts with
      | none => setElements key []
      | some es =>
        let at_ ← subscript p fuel es
        setElements key ((← elements key).filter (·.1 != at_))
  termination_by structural fuel => fuel

/-- Performs the body of a loop once; false if the loop is left. -/
def turn (p : Script) : Nat → Statement → Run Bool
  | 0, _ => return false
  | fuel + 1, body =>
    tryCatch (do
      act p fuel body
      return true) fun e => match e with
        | .leave => return false
        | .again => return true
        | e => throw e
  termination_by structural fuel => fuel

/-- Performs the body of a loop for each of some texts. -/
def each (p : Script) : Nat → String → Statement → List (List Char) → Run Unit
  | 0, _, _, _ => return
  | fuel + 1, name, body, keys => do
    match keys with
    | [] => return
    | k :: rest =>
      store p fuel (.variable name) (.text k)
      if ← turn p fuel body then each p fuel name body rest
  termination_by structural fuel => fuel

end

/-- How deep and how long a script may go. -/
def bound : Nat := 1000000

/-- Performs the actions of rules for which it is time. -/
def applyRules (p : Script) (time : When → Bool) : Run Unit := do
  for ((w, action), i) in p.rules.zipIdx do
    if time w then
      let selected ← match w with
        | .start | .finish | .always => pure true
        | .test e => do pure (isTrue (← eval p bound e))
        | .range first last => do
          let began ← if (← get).ranges.contains i then pure true
            else do pure (isTrue (← eval p bound first))
          if began then
            let closed := isTrue (← eval p bound last)
            modify fun s => { s with ranges :=
              if closed then s.ranges.filter (· != i) else if s.ranges.contains i then s.ranges else i :: s.ranges }
          pure began
      if selected then
        match action with
        | some ss => perform p bound ss
        | none => write false ((← get).record ++ (← setting "ORS" "\n"))

/-- Goes over the lines. -/
def overLines (p : Script) : Nat → Run Unit
  | 0 => return
  | fuel + 1 => do
    match ← readLine with
    | none => return
    | some cs =>
      setRecord cs
      tryCatch (applyRules p fun w => match w with
        | .start | .finish => false
        | _ => true) fun e => match e with
          | .next => return
          | e => throw e
      overLines p fuel

/-- Runs a script from its beginning to its end. -/
def whole (p : Script) (size : Nat) : Run Unit := do
  let isStart (w : When) : Bool := w matches .start
  let isFinish (w : When) : Bool := w matches .finish
  let ended ← tryCatch (do
      applyRules p isStart
      if p.rules.any fun r => !isStart r.1 then overLines p (size + 10)
      pure (none : Option Stop)) fun e => return some e
  match ended with
  | none | some .exit | some .next =>
    tryCatch (applyRules p isFinish) fun e => match e with
      | .exit | .next => return
      | e => throw e
  | some e => throw e
  for (command, _) in (← get).pipes do closePipe command

end Awk

namespace Tool

/-- Runs a script of patterns and actions on the lines of files. -/
def awk (c : ToolCall) : ToolResult :=
  let g : Grammar := { letters := "F:v:f:W:", mixed := false }
  let count := c.arguments.foldl (fun n a => n + a.length + 1) 1
  let fail (words : String) : ToolResult := complaining c.disk 2 s!"{c.name}: {words}\n"
  match g.read count c.arguments with
  | .error words =>
    match words.toList.reverse with
    | '\'' :: l :: _ =>
      if words.startsWith "option requires" then fail s!"option -{l} lacks argument" else fail s!"not an option: -{l}"
    | _ => fail words
  | .ok o =>
    let files := o.texts "f"
    let read := files.map fun f => (f, textOf c c.disk f)
    match read.find? (fun f => f.2.toOption.isNone), files, o.words with
    | some (f, .error r), _, _ => fail s!"cannot open \"{f}\" ({reasonText r})"
    | _, [], [] => complaining c.disk 2 "usage: awk [-F fs][-v var=value][prog | -f progfile][file ...]\n"
    | _, files, words =>
      let text := if files.isEmpty then (words.head?.getD "").toList
        else List.intercalate ['\n'] (read.filterMap fun f => f.2.toOption.map (·.1))
      let operands := if files.isEmpty then words.drop 1 else words
      match Awk.script text with
      | .error faults =>
        complaining c.disk 2 (String.join (faults.map fun (line, words) => s!"{c.name}: line {line}: {words}\n"))
      | .ok script =>
        let input (s : String) : Awk.Value := .input s.toList
        let separator := match o.text? "F" with
          | some s => [("FS", Awk.Value.text (if s = "t" then ['\t'] else Awk.escaped s.toList))]
          | none => []
        let given := (o.texts "v").filterMap Awk.assigning?
        let start : Awk.State :=
          { disk := c.disk, mask := c.mask, operands, standard := (Octets.ofBytes c.input).toList
            bindings := (given.reverse.map fun e => (e.1, Awk.Value.input e.2)) ++ separator ++
              [("ARGC", .number (Awk.number (operands.length + 1))), ("NR", .number (Awk.number 0)),
                ("FNR", .number (Awk.number 0)), ("RLENGTH", .number (Awk.number (-1))), ("RSTART", .number (Awk.number 0)),
                ("SUBSEP", .text ['\x1c'])]
            arrays := [("ENVIRON", c.environment.map fun e => (e.1.toList, input e.2)),
              ("ARGV", (("awk" :: operands).zipIdx).map fun e => ((toString e.2).toList, input e.1))] }
        let (result, s) := (Awk.whole script (c.input.size + c.disk.entries.foldl (fun n e => match e.2 with
          | .file bytes _ => n + bytes.size
          | _ => n) 0)).run start
        let shown : ToolResult :=
          { disk := s.disk, effects := s.effects.reverse, code := s.code, used := if s.usesStandard then c.input.size else 0 }
        match result with
        | .error (.fault words) =>
          { shown with code := 2, effects := shown.effects ++ [.error s!"{c.name}: {words}\n"] }
        | _ => shown

end Tool

end VariantForge.Shell
