import Mathlib.Data.List.DropRight
import VariantForge.Proofs.Text.Separators
import VariantForge.Toolchain.Profile

/-!
# Machine files — what is read from them

A machine file is read line by line: a line names a section in brackets, or it gives a key its value, or it is
empty. A value is read in two steps, as it is in most such readers. A scan cuts it into tokens (`scan`), and only there
do quotes and backslashes count; the tokens are then one string or a list of strings in brackets (`value`).

So a string comes back whatever is in it (`scan_quote`): a comma or a bracket in it is no token of the list around it, and a
backslash at its end does not swallow the quote that closes it. What no string may hold is a line break, which the lines
are cut at. Without one a file is read as the sections that it was written from (`read_render`), so that the two files
of a profile say all that the build is to know of it (`read_profile`).
-/

namespace VariantForge.MachineFile

variable {cs rest : List Char} {sections : List Section}

/-! ## Reading -/

/-- What a value is written in. -/
inductive Token where
  | text (s : String)
  | opening
  | closing
  | comma
  deriving DecidableEq

/-- Where a scan is: between the tokens, in a string of which some characters are read, or behind a backslash in it. -/
inductive Place where
  | between
  | inside (read : List Char)
  | escape (read : List Char)

/-- The tokens of a value. In a string a backslash stands before a backslash or a quote, and before nothing else. -/
def scan : Place → List Char → Option (List Token)
  | .between, [] => some []
  | .between, c :: rest =>
    if c = ' ' then scan .between rest
    else if c = '\'' then scan (.inside []) rest
    else if c = '[' then (scan .between rest).map (.opening :: ·)
    else if c = ']' then (scan .between rest).map (.closing :: ·)
    else if c = ',' then (scan .between rest).map (.comma :: ·)
    else none
  | .inside read, c :: rest =>
    if c = '\'' then (scan .between rest).map (.text (String.ofList read) :: ·)
    else if c = '\\' then scan (.escape read) rest
    else scan (.inside (read ++ [c])) rest
  | .escape read, c :: rest => if c = '\\' ∨ c = '\'' then scan (.inside (read ++ [c])) rest else none
  | _, [] => none

/-- The strings of a list, with a comma after each but the last, which the end of the list comes after. -/
def items : List Token → Option (List String)
  | [.text s, .closing] => some [s]
  | .text s :: .comma :: rest => (items rest).map (s :: ·)
  | _ => none

/-- The value that some tokens are. -/
def value : List Token → Option Value
  | [.text s] => some (.text s)
  | [.opening, .closing] => some (.list [])
  | .opening :: rest => (items rest).map .list
  | _ => none

/-- What a line says. -/
inductive Row where
  | blank
  | header (name : String)
  | entry (key : String) (value : Value)
  deriving DecidableEq

/-- A key and its value, at the two sides of the first equals sign. -/
def readEntry (line : List Char) : Option Row := do
  let v ← (scan .between ((line.dropWhile (· ≠ '=')).drop 1)).bind value
  pure (.entry (String.ofList ((line.takeWhile (· ≠ '=')).rdropWhile (· = ' '))) v)

/-- Reads a line. -/
def readRow : List Char → Option Row
  | [] => some .blank
  | '[' :: rest => if rest.getLast? = some ']' then some (.header (String.ofList rest.dropLast)) else none
  | line => readEntry line

/-- The entries before the first section, and the sections. -/
def gather : List Row → List (String × Value) × List Section
  | [] => ([], [])
  | .blank :: rows => gather rows
  | .header name :: rows => ([], ⟨name, (gather rows).1⟩ :: (gather rows).2)
  | .entry key v :: rows => ((key, v) :: (gather rows).1, (gather rows).2)

/-- Reads a machine file. No entry stands before the first section. -/
def read (text : String) : Option (List Section) := do
  let rows ← (text.toList.splitOn '\n').mapM readRow
  if (gather rows).1.isEmpty then some (gather rows).2 else none

/-! ## Values -/

theorem scan_quotedChar (read : List Char) (c : Char) (rest : List Char) :
    scan (.inside read) (quotedChar c ++ rest) = scan (.inside (read ++ [c])) rest := by
  by_cases hc : c = '\\' ∨ c = '\''
  · simp [quotedChar, scan, hc]
  · have hne : c ≠ '\\' ∧ c ≠ '\'' := not_or.1 hc
    simp [quotedChar, scan, hne]

theorem scan_text (read cs rest : List Char) :
    scan (.inside read) (cs.flatMap quotedChar ++ '\'' :: rest) =
      (scan .between rest).map (.text (String.ofList (read ++ cs)) :: ·) := by
  -- what was read before grows by each character, so the induction is for all of it
  induction cs generalizing read with
  | nil => simp [scan]
  | cons c cs ih =>
    rw [List.flatMap_cons, List.append_assoc, scan_quotedChar, ih, List.append_assoc, List.singleton_append]

/-- A string in quotes is one token, whatever is in it and whatever comes after it. -/
theorem scan_quote (s : String) (rest : List Char) :
    scan .between ((quote s).toList ++ rest) = (scan .between rest).map (.text s :: ·) := by
  have htext := scan_text [] s.toList rest
  rw [List.nil_append, String.ofList_toList] at htext
  rw [quote, String.toList_ofList, List.cons_append, List.cons_append, List.append_assoc, List.singleton_append, scan,
    if_neg (by decide), if_pos rfl, htext]

/-- The tokens of strings with commas between them. -/
def separated (values : List String) : List Token := (values.map Token.text).intersperse .comma

theorem scan_comma (rest : List Char) : scan .between (',' :: ' ' :: rest) = (scan .between rest).map (.comma :: ·) := by
  simp [scan]

theorem scan_separated (values : List String) (rest : List Char) :
    scan .between ((", ".intercalate (values.map quote)).toList ++ rest) =
      (scan .between rest).map (separated values ++ ·) := by
  induction values with
  | nil => simp [separated]
  | cons s values ih =>
    cases values with
    | nil => simp [separated, scan_quote]
    | cons t values =>
      -- a comma and a blank come between two strings, and the blank is no token
      rw [List.map_cons, List.map_cons, String.intercalate_cons_cons, ← List.map_cons, String.toList_append,
        String.toList_append, List.append_assoc, List.append_assoc, scan_quote]
      rw [show ", ".toList = [',', ' '] from rfl, List.cons_append, List.singleton_append, scan_comma, ih]
      simp [separated, Function.comp_def]

theorem items_separated (s : String) (values : List String) :
    items (separated (s :: values) ++ [.closing]) = some (s :: values) := by
  induction values generalizing s with
  | nil => rfl
  | cons t values ih =>
    have hitems := ih t
    rw [separated, List.map_cons] at hitems
    simp [separated, items, hitems]

/-- The value that is written is the value that is read. -/
theorem value_render (v : Value) : (scan .between v.render.toList).bind value = some v := by
  cases v with
  | text s =>
    have hquote := scan_quote s []
    rw [List.append_nil] at hquote
    rw [Value.render, hquote]
    rfl
  | list values =>
    have hclosing : scan .between [']'] = some [.closing] := rfl
    have hscan : scan .between (MachineFile.list values).toList =
        some (.opening :: (separated values ++ [.closing])) := by
      rw [MachineFile.list, String.toList_append, String.toList_append, List.append_assoc,
        show "[".toList = ['['] from rfl, List.singleton_append, scan, if_neg (by decide), if_neg (by decide), if_pos rfl,
        show "]".toList = [']'] from rfl, scan_separated, hclosing]
      rfl
    rw [Value.render, hscan]
    cases values with
    | nil => rfl
    | cons s values =>
      have hvalue : value (.opening :: (separated (s :: values) ++ [.closing])) =
          (items (separated (s :: values) ++ [.closing])).map .list := by
        cases values <;> rfl
      rw [Option.bind_some, hvalue, items_separated]
      rfl

/-! ## Lines -/

/-- Whether a key can be told from its value and from the name of a section. -/
structure IsKey (key : String) : Prop where
  ne_nil : key.toList ≠ []
  head : key.toList.head? ≠ some '['
  last : key.toList.getLast? ≠ some ' '
  no_equals : '=' ∉ key.toList
  no_break : '\n' ∉ key.toList

instance (key : String) : Decidable (IsKey key) :=
  decidable_of_iff (key.toList ≠ [] ∧ key.toList.head? ≠ some '[' ∧ key.toList.getLast? ≠ some ' ' ∧
      '=' ∉ key.toList ∧ '\n' ∉ key.toList)
    ⟨fun ⟨hne, hhead, hlast, hequals, hbreak⟩ => ⟨hne, hhead, hlast, hequals, hbreak⟩,
      fun h => ⟨h.ne_nil, h.head, h.last, h.no_equals, h.no_break⟩⟩

/-- The strings of a value. -/
def Value.texts : Value → List String
  | .text s => [s]
  | .list values => values

/-- Whether a section is read as it was written. -/
structure Section.IsReadable (s : Section) : Prop where
  name : '\n' ∉ s.name.toList
  keys : ∀ e ∈ s.entries, IsKey e.1
  texts : ∀ e ∈ s.entries, ∀ t ∈ e.2.texts, '\n' ∉ t.toList

/-- What the lines of a section say. -/
def Section.rows (s : Section) : List Row := .header s.name :: s.entries.map fun e => .entry e.1 e.2

theorem toList_header (name : String) : (s!"[{name}]").toList = '[' :: (name.toList ++ [']']) := by
  rw [show s!"[{name}]" = "[" ++ name ++ "]" from rfl]
  simp

theorem toList_entry (key : String) (v : Value) :
    (s!"{key} = {v.render}").toList = (key.toList ++ [' ']) ++ '=' :: ' ' :: v.render.toList := by
  rw [show s!"{key} = {v.render}" = key ++ " = " ++ v.render from rfl]
  simp

theorem readRow_header (name : String) : readRow (s!"[{name}]").toList = some (.header name) := by
  rw [toList_header, readRow, if_pos (by simp), List.dropLast_concat, String.ofList_toList]

theorem readEntry_entry {key : String} (hkey : IsKey key) (v : Value) :
    readEntry ((key.toList ++ [' ']) ++ '=' :: ' ' :: v.render.toList) = some (.entry key v) := by
  have hbefore : ∀ c ∈ key.toList ++ [' '], decide (c ≠ '=') = true := by
    intro c hc
    rcases List.mem_append.1 hc with hc | hc
    · have hne : c ≠ '=' := fun h => hkey.no_equals (h ▸ hc)
      simpa using hne
    · rw [List.mem_singleton.1 hc]
      rfl
  have htrim : (key.toList ++ [' ']).rdropWhile (· = ' ') = key.toList := by
    rw [List.rdropWhile_concat_pos _ _ _ rfl, List.rdropWhile_eq_self_iff]
    intro hne hblank
    rw [decide_eq_true_eq] at hblank
    exact hkey.last (by rw [List.getLast?_eq_some_getLast hne, hblank])
  have hblank : scan .between (' ' :: v.render.toList) = scan .between v.render.toList := rfl
  rw [readEntry, List.takeWhile_append_of_pos hbefore, List.dropWhile_append_of_pos hbefore,
    List.takeWhile_cons_of_neg (by simp), List.dropWhile_cons_of_neg (by simp), List.append_nil, htrim,
    List.drop_one, List.tail_cons, hblank, value_render, String.ofList_toList]
  rfl

theorem readRow_entry {key : String} (hkey : IsKey key) (v : Value) :
    readRow (s!"{key} = {v.render}").toList = some (.entry key v) := by
  have hentry := readEntry_entry hkey v
  have hhead := hkey.head
  rw [toList_entry]
  cases hcs : key.toList with
  | nil => exact absurd hcs hkey.ne_nil
  | cons c cs =>
    rw [hcs] at hentry hhead
    rw [List.cons_append, List.cons_append] at hentry ⊢
    -- the line is not empty, and does not begin with a bracket as that of a section does
    rw [readRow]
    · exact hentry
    · exact nofun
    · rintro _ ⟨rfl, -⟩
      exact hhead rfl

theorem mapM_readRow_lines {s : Section} (h : s.IsReadable) :
    (s.lines.map String.toList).mapM readRow = some s.rows := by
  have hentries (es : List (String × Value)) (hkeys : ∀ e ∈ es, IsKey e.1) :
      ((es.map fun e => s!"{e.1} = {e.2.render}").map String.toList).mapM readRow =
        some (es.map fun e => .entry e.1 e.2) := by
    induction es with
    | nil => rfl
    | cons e es ih =>
      rw [List.forall_mem_cons] at hkeys
      rw [List.map_cons, List.map_cons, List.mapM_cons, readRow_entry hkeys.1, ih hkeys.2]
      rfl
  rw [Section.lines, List.map_cons, List.mapM_cons, readRow_header, hentries s.entries h.keys]
  rfl

/-! ## Files -/

theorem gather_rows (s : Section) (rows : List Row) :
    gather (s.rows ++ rows) = ([], ⟨s.name, s.entries ++ (gather rows).1⟩ :: (gather rows).2) := by
  have hentries (es : List (String × Value)) : gather ((es.map fun e => .entry e.1 e.2) ++ rows) =
      (es ++ (gather rows).1, (gather rows).2) := by
    induction es with
    | nil => rfl
    | cons e es ih => rw [List.map_cons, List.cons_append, gather, ih, List.cons_append]
  rw [Section.rows, List.cons_append, gather, hentries]

theorem gather_sections (sections : List Section) :
    gather (sections.flatMap Section.rows ++ [.blank]) = ([], sections) := by
  induction sections with
  | nil => rfl
  | cons s sections ih => rw [List.flatMap_cons, List.append_assoc, gather_rows, ih, List.append_nil]

theorem mem_quote {s : String} {c : Char} (h : c ∈ (quote s).toList) : c ∈ s.toList ∨ c = '\'' ∨ c = '\\' := by
  rw [quote, String.toList_ofList, List.cons_append, List.mem_cons, List.mem_append, List.mem_singleton,
    List.mem_flatMap] at h
  rcases h with h | ⟨d, hd, h⟩ | h
  · exact .inr (.inl h)
  · rw [quotedChar] at h
    split at h
    · rcases List.mem_cons.1 h with rfl | h
      · exact .inr (.inr rfl)
      · exact .inl (List.mem_singleton.1 h ▸ hd)
    · exact .inl (List.mem_singleton.1 h ▸ hd)
  · exact .inr (.inl h)

/-- Writing a value breaks no line. -/
theorem break_notMem_render {v : Value} (h : ∀ t ∈ v.texts, '\n' ∉ t.toList) : '\n' ∉ v.render.toList := by
  have hquote {t : String} (ht : '\n' ∉ t.toList) : '\n' ∉ (quote t).toList := fun hc => by
    rcases mem_quote hc with hc | hc | hc
    · exact ht hc
    · exact absurd hc (by decide)
    · exact absurd hc (by decide)
  cases v with
  | text s => exact hquote (h s (List.mem_singleton_self s))
  | list values =>
    intro hc
    rw [Value.render, MachineFile.list, String.toList_append, String.toList_append, String.toList_intercalate,
      List.mem_append, List.mem_append] at hc
    rcases hc with (hc | hc) | hc
    · exact absurd hc (by decide)
    · rcases Text.mem_intercalate hc with hc | ⟨w, hw, hc⟩
      · exact absurd hc (by decide)
      · simp only [List.map_map, List.mem_map, Function.comp_apply] at hw
        obtain ⟨t, ht, rfl⟩ := hw
        exact hquote (h t ht) hc
    · exact absurd hc (by decide)

theorem break_notMem_lines {s : Section} (h : s.IsReadable) {line : String} (hline : line ∈ s.lines) :
    '\n' ∉ line.toList := by
  rw [Section.lines, List.mem_cons, List.mem_map] at hline
  rcases hline with rfl | ⟨e, he, rfl⟩
  · rw [toList_header]
    simp [h.name]
  · rw [toList_entry]
    simp [(h.keys e he).no_break, break_notMem_render (h.texts e he)]

theorem splitOn_render (h : ∀ s ∈ sections, s.IsReadable) :
    (render sections).toList.splitOn '\n' = (sections.flatMap Section.lines ++ [""]).map String.toList := by
  rw [render, String.toList_intercalate]
  refine List.splitOn_intercalate '\n' (fun l hl => ?_) (by simp)
  obtain ⟨line, hline, rfl⟩ := List.mem_map.1 hl
  rcases List.mem_append.1 hline with hline | hline
  · obtain ⟨s, hs, hline⟩ := List.mem_flatMap.1 hline
    exact break_notMem_lines (h s hs) hline
  · rw [List.mem_singleton.1 hline]
    exact List.not_mem_nil

/-- What a file is read as is what it was written from. -/
theorem read_render (h : ∀ s ∈ sections, s.IsReadable) : read (render sections) = some sections := by
  have hrows : ((sections.flatMap Section.lines).map String.toList).mapM readRow =
      some (sections.flatMap Section.rows) := by
    induction sections with
    | nil => rfl
    | cons s sections ih =>
      rw [List.forall_mem_cons] at h
      rw [List.flatMap_cons, List.map_append, List.mapM_append, mapM_readRow_lines h.1, ih h.2]
      rfl
  have hblank : ([""].map String.toList).mapM readRow = some [.blank] := rfl
  rw [read, splitOn_render h, List.map_append, List.mapM_append, hrows, hblank]
  simp [gather_sections]

-- without a backslash a quote ends the string, and what comes after it is no token
example : read "[binaries]\nc = ['it's']\n" = none := rfl

end VariantForge.MachineFile

/-! ## The files of a profile -/

namespace VariantForge

/-- The strings that the machine files of a profile hold. -/
def Profile.texts (p : Profile) : List String :=
  p.launcher ++ p.cppCompilerFlags ++ p.cArgs ++ p.cppArgs ++
    [p.cc, p.cxx, p.ar, p.strip, p.cLinker, p.cppLinker, p.pkgConfig, p.platform, p.arch, p.cpu, p.endian,
      p.native.cc, p.native.cxx, p.native.pkgConfig]

namespace MachineFile

variable {p : Profile}

/-- The sections of both files are told apart by their keys, and hold no strings but those of the profile. -/
theorem isReadable_file (h : ∀ t ∈ p.texts, '\n' ∉ t.toList) : ∀ s ∈ native p ++ cross p, s.IsReadable := by
  have hkeys : ∀ s ∈ native p ++ cross p, '\n' ∉ s.name.toList ∧ ∀ e ∈ s.entries, IsKey e.1 := by
    simp only [native, cross, List.forall_mem_append, List.forall_mem_cons]
    decide
  have htexts : ∀ s ∈ native p ++ cross p, ∀ e ∈ s.entries, ∀ t ∈ e.2.texts, '\n' ∉ t.toList := by
    simp only [Profile.texts, List.forall_mem_append, List.forall_mem_cons] at h
    simp only [native, cross, Value.texts, List.forall_mem_append, List.forall_mem_cons]
    simp +contextual [h]
  exact fun s hs => ⟨(hkeys s hs).1, (hkeys s hs).2, htexts s hs⟩

/-- A profile can be read from its machine files, whatever its strings hold but line breaks. -/
theorem read_profile (h : ∀ t ∈ p.texts, '\n' ∉ t.toList) :
    read (render (cross p)) = some
        [⟨"binaries",
            [("ar", .text p.ar), ("c", .list (p.launcher ++ [p.cc])),
              ("cpp", .list (p.launcher ++ [p.cxx] ++ p.cppCompilerFlags)), ("c_ld", .text p.cLinker),
              ("cpp_ld", .text p.cppLinker), ("strip", .text p.strip), ("pkg-config", .text p.pkgConfig)]⟩,
          ⟨"host_machine",
            [("system", .text p.platform), ("cpu_family", .text p.arch), ("cpu", .text p.cpu),
              ("endian", .text p.endian)]⟩,
          ⟨"built-in options", [("c_args", .list p.cArgs), ("cpp_args", .list p.cppArgs)]⟩] ∧
      read (render (native p)) = some
        [⟨"binaries",
            [("c", .list (p.launcher ++ [p.native.cc])), ("cpp", .list (p.launcher ++ [p.native.cxx])),
              ("pkg-config", .text p.native.pkgConfig)]⟩] := by
  have hfile := List.forall_mem_append.1 (isReadable_file h)
  exact ⟨read_render hfile.2, read_render hfile.1⟩

/-- A profile whose strings look like what the files are written with. -/
def quotedProfile : Profile where
  platform := "and\\'roid"
  arch := "[aarch64"
  cpu := "armv8]"
  endian := "', '"
  apiLevel := 35
  binDir := "/ndk"
  launcher := ["ccache", "--dir=\\"]
  cc := "C:\\bin\\clang's"
  cxx := "a, 'b', c"
  ar := ""
  strip := "\\'"
  cLinker := "c_ld = 'lld'"
  cppLinker := "lld\\\\"
  cppCompilerFlags := ["-D'x'=\"y\"", ""]
  cArgs := []
  cppArgs := ["]", "["]
  pkgConfig := "/bin/false"
  native := ⟨"clang", "clang++", "/usr/bin/pkg-config"⟩
  mesonOptions := []
  environment := []

theorem read_quotedProfile :
    (∀ t ∈ quotedProfile.texts, '\n' ∉ t.toList) ∧
      read (render (cross quotedProfile)) = some
        [⟨"binaries",
            [("ar", .text ""), ("c", .list ["ccache", "--dir=\\", "C:\\bin\\clang's"]),
              ("cpp", .list ["ccache", "--dir=\\", "a, 'b', c", "-D'x'=\"y\"", ""]), ("c_ld", .text "c_ld = 'lld'"),
              ("cpp_ld", .text "lld\\\\"), ("strip", .text "\\'"), ("pkg-config", .text "/bin/false")]⟩,
          ⟨"host_machine",
            [("system", .text "and\\'roid"), ("cpu_family", .text "[aarch64"), ("cpu", .text "armv8]"),
              ("endian", .text "', '")]⟩,
          ⟨"built-in options", [("c_args", .list []), ("cpp_args", .list ["]", "["])]⟩] :=
  have h : ∀ t ∈ quotedProfile.texts, '\n' ∉ t.toList := by decide
  ⟨h, (read_profile h).1⟩

end MachineFile

end VariantForge
