import Harvester.Text.Blank
import Harvester.Json.Value
namespace Harvester.Json

open Text

-- Reading is one pass over the characters with a stack of open arrays and objects.
inductive Frame
  | list (items : List Json)
  | record (fields : List (String × Json)) (key : String)
deriving Repr, Inhabited

-- Where a string stands within an escape. `lead` is the first half of a surrogate pair.
inductive Escape
  | plain
  | backslash
  | code (digits value : Nat)
  | afterLead (lead : Nat)
  | leadBackslash (lead : Nat)
  | leadCode (lead digits value : Nat)
deriving Repr, Inhabited

structure Quoted where
  text : List Char
  broken : Bool
  escape : Escape
deriving Repr, Inhabited

def Quoted.start : Quoted := ⟨[], false, .plain⟩
def Quoted.add (q : Quoted) (c : Char) : Quoted := ⟨c :: q.text, q.broken, .plain⟩
def Quoted.spoiled (q : Quoted) : Quoted := ⟨q.text, true, .plain⟩

def simpleEscape? (c : Char) : Option Char :=
  match c with
  | '"' => some '"'
  | '\\' => some '\\'
  | '/' => some '/'
  | 'b' => some (Char.ofNat 8)
  | 'f' => some (Char.ofNat 12)
  | 'n' => some '\n'
  | 'r' => some '\r'
  | 't' => some '\t'
  | _ => none

-- A finished code unit: a character, the first half of a pair, or a stray second half.
def Quoted.unit (q : Quoted) (n : Nat) : Quoted :=
  if 0xD800 ≤ n ∧ n ≤ 0xDBFF then { q with escape := .afterLead n }
  else if 0xDC00 ≤ n ∧ n ≤ 0xDFFF then q.spoiled
  else q.add (Char.ofNat n)

def Quoted.afterBackslash (q : Quoted) (c : Char) : Option Quoted :=
  if c = 'u' then some { q with escape := .code 0 0 }
  else (simpleEscape? c).map q.add

-- `none` is a character that may not stand in a string; the flag tells that the string has closed.
def Quoted.plainStep (q : Quoted) (c : Char) : Option (Quoted × Bool) :=
  if c = '"' then some (q, true)
  else if c = '\\' then some ({ q with escape := .backslash }, false)
  else if c.toNat < 0x20 then none
  else some (q.add c, false)

def Quoted.step (q : Quoted) (c : Char) : Option (Quoted × Bool) :=
  match q.escape with
  | .plain => q.plainStep c
  | .backslash => (q.afterBackslash c).map fun q => (q, false)
  | .code digits value =>
    (hexValue? c).map fun d =>
      let n := value * 16 + d
      (if digits = 3 then q.unit n else { q with escape := .code (digits + 1) n }, false)
  | .afterLead lead =>
    if c = '\\' then some ({ q with escape := .leadBackslash lead }, false) else q.spoiled.plainStep c
  | .leadBackslash lead =>
    if c = 'u' then some ({ q with escape := .leadCode lead 0 0 }, false)
    else (q.spoiled.afterBackslash c).map fun q => (q, false)
  | .leadCode lead digits value =>
    (hexValue? c).map fun d =>
      let n := value * 16 + d
      (if digits < 3 then { q with escape := .leadCode lead (digits + 1) n }
        else if 0xDC00 ≤ n ∧ n ≤ 0xDFFF then q.add (Char.ofNat ((lead - 0xD800) * 1024 + (n - 0xDC00) + 0x10000))
        else q.spoiled.unit n, false)

-- The grammar position within a number.
inductive Stage
  | minus | zero | whole | point | fraction | mark | sign | exponent
deriving Repr, DecidableEq, Inhabited

structure Figures where
  stage : Stage
  negative : Bool
  whole : List Char
  fraction : List Char
  exponentNegative : Bool
  exponent : List Char
deriving Repr, Inhabited

def Figures.start (c : Char) : Option Figures :=
  if c = '-' then some ⟨.minus, true, [], [], false, []⟩
  else if c = '0' then some ⟨.zero, false, [c], [], false, []⟩
  else if isDigit c then some ⟨.whole, false, [c], [], false, []⟩
  else none

-- `none` when the character does not continue the number.
def Figures.step (f : Figures) (c : Char) : Option Figures :=
  match f.stage with
  | .minus =>
    if c = '0' then some { f with stage := .zero, whole := [c] }
    else if isDigit c then some { f with stage := .whole, whole := [c] } else none
  | .zero =>
    if c = '.' then some { f with stage := .point }
    else if c = 'e' ∨ c = 'E' then some { f with stage := .mark } else none
  | .whole =>
    if isDigit c then some { f with whole := c :: f.whole }
    else if c = '.' then some { f with stage := .point }
    else if c = 'e' ∨ c = 'E' then some { f with stage := .mark } else none
  | .point => if isDigit c then some { f with stage := .fraction, fraction := [c] } else none
  | .fraction =>
    if isDigit c then some { f with fraction := c :: f.fraction }
    else if c = 'e' ∨ c = 'E' then some { f with stage := .mark } else none
  | .mark =>
    if c = '+' then some { f with stage := .sign }
    else if c = '-' then some { f with stage := .sign, exponentNegative := true }
    else if isDigit c then some { f with stage := .exponent, exponent := [c] } else none
  | .sign => if isDigit c then some { f with stage := .exponent, exponent := [c] } else none
  | .exponent => if isDigit c then some { f with exponent := c :: f.exponent } else none

def natOf (digits : List Char) : Nat := digits.foldl (fun n c => n * 10 + digitValue c) 0

def Figures.finish (f : Figures) : Option Json :=
  let whole := f.whole.reverse
  match f.stage with
  | .zero | .whole =>
    if f.negative then
      if natOf whole = 0 then some (.decimal ⟨true, whole, [], none⟩) else some (.int (-(natOf whole : Int)))
    else some (.int (natOf whole))
  | .fraction => some (.decimal ⟨f.negative, whole, f.fraction.reverse, none⟩)
  | .exponent =>
    let e : Int := natOf f.exponent.reverse
    some (.decimal ⟨f.negative, whole, f.fraction.reverse, some (if f.exponentNegative then -e else e)⟩)
  | _ => none

-- What may come next. `closable` is true right behind an opening bracket.
inductive Mode
  | value (closable : Bool)
  | name (closable : Bool)
  | colon
  | follow
  | quoted (q : Quoted) (asKey : Bool)
  | figures (f : Figures)
  | word (left : List Char) (means : Json)
  | finished (document : Json)
deriving Repr, Inhabited

structure Reading where
  frames : List Frame
  mode : Mode
deriving Repr, Inhabited

def isSpace (c : Char) : Bool := c == ' ' || c == '\n' || c == '\t' || c == '\r'

-- A complete value goes into the innermost open array or object.
def deliver (v : Json) : List Frame → Reading
  | [] => ⟨[], .finished v⟩
  | .list items :: rest => ⟨.list (v :: items) :: rest, .follow⟩
  | .record fields key :: rest => ⟨.record ((key, v) :: fields) "" :: rest, .follow⟩

def beginValue (frames : List Frame) (c : Char) : Option Reading :=
  match c with
  | '"' => some ⟨frames, .quoted .start false⟩
  | '[' => some ⟨.list [] :: frames, .value true⟩
  | '{' => some ⟨.record [] "" :: frames, .name true⟩
  | 't' => some ⟨frames, .word ['r', 'u', 'e'] (.bool true)⟩
  | 'f' => some ⟨frames, .word ['a', 'l', 's', 'e'] (.bool false)⟩
  | 'n' => some ⟨frames, .word ['u', 'l', 'l'] .null⟩
  | c => (Figures.start c).map fun f => ⟨frames, .figures f⟩

def closeFrame (frames : List Frame) (c : Char) : Option Reading :=
  match frames with
  | .list items :: rest => if c = ']' then some (deliver (.arr items.reverse) rest) else none
  | .record fields _ :: rest => if c = '}' then some (deliver (.obj fields.reverse) rest) else none
  | [] => none

def afterValue (frames : List Frame) (c : Char) : Option Reading :=
  if c = ',' then
    match frames with
    | .list items :: rest => some ⟨.list items :: rest, .value false⟩
    | .record fields key :: rest => some ⟨.record fields key :: rest, .name false⟩
    | [] => none
  else closeFrame frames c

def quotedDone (frames : List Frame) (q : Quoted) (asKey : Bool) : Option Reading :=
  let text := String.ofList q.text.reverse
  if asKey then
    if q.broken then none
    else match frames with
      | .record fields _ :: rest => some ⟨.record fields text :: rest, .colon⟩
      | _ => none
  else some (deliver (if q.broken then .unpaired else .str text) frames)

-- One character in a position outside strings, numbers and words.
def between (r : Reading) (c : Char) : Option Reading :=
  if isSpace c then some r
  else match r.mode with
    | .value closable => if closable ∧ c = ']' then closeFrame r.frames c else beginValue r.frames c
    | .name closable =>
      if closable ∧ c = '}' then closeFrame r.frames c
      else if c = '"' then some ⟨r.frames, .quoted .start true⟩ else none
    | .colon => if c = ':' then some ⟨r.frames, .value false⟩ else none
    | .follow => afterValue r.frames c
    | _ => none

def step (r : Reading) (c : Char) : Option Reading :=
  match r.mode with
  | .quoted q asKey =>
    match q.step c with
    | none => none
    | some (q, false) => some ⟨r.frames, .quoted q asKey⟩
    | some (q, true) => quotedDone r.frames q asKey
  | .figures f =>
    match f.step c with
    | some f => some ⟨r.frames, .figures f⟩
    | none => f.finish.bind fun v => between (deliver v r.frames) c
  | .word left means =>
    match left with
    | [l] => if c = l then some (deliver means r.frames) else none
    | l :: rest => if c = l then some ⟨r.frames, .word rest means⟩ else none
    | [] => none
  | _ => between r c

def run (r : Reading) : List Char → Option Reading
  | [] => some r
  | c :: rest => (step r c).bind fun r => run r rest

def start : Reading := ⟨[], .value false⟩

def finish (r : Reading) : Option Json :=
  match r.mode, r.frames with
  | .finished v, _ => some v
  | .figures f, [] => f.finish
  | _, _ => none

-- The document a text spells, if it spells exactly one.
def parse? (text : String) : Option Json := (run start text.toList).bind finish

end Harvester.Json
