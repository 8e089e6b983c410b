import HttpScenario.Pattern.Tree
/-!
# What a pattern means

The tree of a pattern with all flags taken into account.  Only five constructions are left: sets of
characters, conditions on the place between two characters, sequences, choices and repetitions.

A flag that is set in a group holds for the rest of that group, so compiling goes through a tree
from left to right and hands the flags on.
-/

namespace HttpScenario.Pattern

/-- A condition on the place between two characters. -/
inductive Place where
  | textStart
  | textEnd
  | lineStart
  | lineEnd
  /-- Line starts and ends where carriage returns end lines too. -/
  | lineStartCrlf
  | lineEndCrlf
  /-- A word begins or ends; the argument says whether words are ASCII. -/
  | boundary (ascii : Bool)
  | notBoundary (ascii : Bool)
  | wordStart (ascii : Bool)
  | wordEnd (ascii : Bool)
  | noWordBefore (ascii : Bool)
  | noWordAfter (ascii : Bool)
  deriving DecidableEq, Repr

/-- A pattern that is ready to be matched. -/
inductive Program where
  | empty
  | set (chars : Charset)
  | place (condition : Place)
  | seq (first second : Program)
  | choice (first second : Program)
  /-- At least `low` rounds, and at most `high` if that is given. -/
  | rep (low : Nat) (high : Option Nat) (body : Program)
  deriving Repr, Inhabited

/-- The flags that hold at a place in a pattern. -/
structure Flags where
  ignoreCase : Bool := false
  lines : Bool := false
  dotAll : Bool := false
  unicode : Bool := true
  crlf : Bool := false
  deriving DecidableEq, Repr

namespace Flags

/-- Sets or clears one flag. -/
def set (flags : Flags) (flag : Flag) (on : Bool) : Flags :=
  match flag with
  | .ignoreCase => { flags with ignoreCase := on }
  | .lines => { flags with lines := on }
  | .dotAll => { flags with dotAll := on }
  | .unicode => { flags with unicode := on }
  | .crlf => { flags with crlf := on }
  | .swapGreed => flags
  | .verbose => flags

/-- Makes the changes of a list of flags in order. -/
def change (flags : Flags) (changes : FlagChange) : Flags :=
  changes.foldl (fun flags (flag, on) => flags.set flag on) flags

end Flags

/-! ## Sets -/

/-- Adds the characters that differ in case only, where case is ignored. -/
def foldIf (flags : Flags) (set : Charset) : Charset :=
  if flags.ignoreCase then (if flags.unicode then .folded set else .asciiFolded set) else set

/-- The class of a backslash and a letter. -/
def shortSet (flags : Flags) (kind : ShortClass) : Charset :=
  if flags.unicode then
    match kind with
    | .digit => .decimal
    | .space => .blank
    | .word => .word
  else
    match kind with
    | .digit => .ranges [(48, 57)]
    | .space => .ranges [(9, 13), (32, 32)]
    | .word => .ranges [(48, 57), (65, 90), (95, 95), (97, 122)]

/-- The set of a class as it is written.  Without the flag for all scripts a class may name ASCII
only, and its complement would hold parts of characters. -/
def compileClass (flags : Flags) : ClassTree → Except Fault Charset
  | .char n asOctet =>
    if flags.unicode || n < 0x80 then .ok (.single n)
    else .error (if asOctet then .invalidUtf8 else .unicodeRequired)
  | .range first last =>
    if flags.unicode || last < 0x80 then .ok (.ranges [(first, last)]) else .error .unicodeRequired
  | .short kind negated =>
    if negated && !flags.unicode then .error .invalidUtf8
    else .ok (.negateIf negated (shortSet flags kind))
  | .named ranges negated =>
    if negated && !flags.unicode then .error .invalidUtf8
    else .ok (.negateIf negated (.ranges ranges))
  | .property set negated =>
    if flags.unicode then .ok (.negateIf negated (foldIf flags set)) else .error .unicodeRequired
  | .bracket negated body => do
    let set ← compileClass flags body
    if negated && !flags.unicode then .error .invalidUtf8
    else .ok (.negateIf negated (foldIf flags set))
  | .union items => compileItems items
  | .inter a b => do
    let a ← compileClass flags a
    let b ← compileClass flags b
    .ok (.inter (foldIf flags a) (foldIf flags b))
  | .diff a b => do
    let a ← compileClass flags a
    let b ← compileClass flags b
    .ok (.diff (foldIf flags a) (foldIf flags b))
  | .symmDiff a b => do
    let a ← compileClass flags a
    let b ← compileClass flags b
    .ok (.symmDiff (foldIf flags a) (foldIf flags b))
where
  /-- The union of the sets of some items. -/
  compileItems : List ClassTree → Except Fault Charset
    | [] => .ok .none
    | item :: items => do
      let set ← compileClass flags item
      let rest ← compileItems items
      .ok (.union set rest)

/-- The characters that a dot stands for. -/
def dotSet (flags : Flags) : Charset :=
  if flags.dotAll then .compl .none
  else if flags.crlf then .compl (.ranges [(10, 10), (13, 13)])
  else .compl (.single 10)

/-! ## Places -/

/-- The condition of an anchor. -/
def placeOf (flags : Flags) : Anchor → Place
  | .lineStart =>
    if flags.lines then (if flags.crlf then .lineStartCrlf else .lineStart) else .textStart
  | .lineEnd => if flags.lines then (if flags.crlf then .lineEndCrlf else .lineEnd) else .textEnd
  | .textStart => .textStart
  | .textEnd => .textEnd
  | .boundary => .boundary (!flags.unicode)
  | .notBoundary => .notBoundary (!flags.unicode)
  | .wordStart => .wordStart (!flags.unicode)
  | .wordEnd => .wordEnd (!flags.unicode)
  | .wordStartHalf => .noWordBefore (!flags.unicode)
  | .wordEndHalf => .noWordAfter (!flags.unicode)

/-! ## Trees -/

mutual

/-- The program of a tree, and the flags that hold after it. -/
def compileTree (flags : Flags) : Tree → Except Fault (Program × Flags)
  | .empty => .ok (.empty, flags)
  | .flags changes => .ok (.empty, flags.change changes)
  | .char n asOctet =>
    if asOctet && !flags.unicode && 0x80 ≤ n then .error .invalidUtf8
    else .ok (.set (foldIf flags (.single n)), flags)
  | .dot => if flags.unicode then .ok (.set (dotSet flags), flags) else .error .invalidUtf8
  | .anchor kind => .ok (.place (placeOf flags kind), flags)
  | .short kind negated =>
    if negated && !flags.unicode then .error .invalidUtf8
    else .ok (.set (.negateIf negated (shortSet flags kind)), flags)
  | .property set negated =>
    if flags.unicode then .ok (.set (.negateIf negated (foldIf flags set)), flags)
    else .error .unicodeRequired
  | .bracket body => do
    let set ← compileClass flags body
    .ok (.set set, flags)
  | .rep low high body => do
    let (program, after) ← compileTree flags body
    .ok (.rep low high program, after)
  | .group changes body => do
    let (program, _) ← compileTree (flags.change changes) body
    .ok (program, flags)
  | .alt branches => compileBranches flags branches
  | .cat items => compileItems flags items

/-- The program of a choice. -/
def compileBranches (flags : Flags) : List Tree → Except Fault (Program × Flags)
  | [] => .ok (.empty, flags)
  | [branch] => compileTree flags branch
  | branch :: branches => do
    let (first, flags) ← compileTree flags branch
    let (second, flags) ← compileBranches flags branches
    .ok (.choice first second, flags)

/-- The program of a sequence. -/
def compileItems (flags : Flags) : List Tree → Except Fault (Program × Flags)
  | [] => .ok (.empty, flags)
  | item :: items => do
    let (first, flags) ← compileTree flags item
    let (second, flags) ← compileItems flags items
    .ok (.seq first second, flags)

end

/-! ## Limits -/

/-- How deep a class is nested. -/
def classDepth : ClassTree → Nat
  | .bracket _ body => classDepth body + 1
  | .union items => itemsDepth items + 1
  | .inter a b => max (classDepth a) (classDepth b) + 1
  | .diff a b => max (classDepth a) (classDepth b) + 1
  | .symmDiff a b => max (classDepth a) (classDepth b) + 1
  | _ => 0
where
  /-- How deep the items of a class are nested. -/
  itemsDepth : List ClassTree → Nat
    | [] => 0
    | item :: items => max (classDepth item) (itemsDepth items)

/-- How deep a tree is nested. -/
def treeDepth : Tree → Nat
  | .bracket body => classDepth body
  | .rep _ _ body => treeDepth body + 1
  | .group _ body => treeDepth body + 1
  | .alt branches => listDepth branches + 1
  | .cat items => listDepth items + 1
  | _ => 0
where
  /-- How deep some trees are nested. -/
  listDepth : List Tree → Nat
    | [] => 0
    | t :: ts => max (treeDepth t) (listDepth ts)

/-- The octets that one copy of a set takes in an automaton, roughly: classes of all scripts branch
into many sequences of octets. -/
def setSize : Charset → Nat
  | .ranges rs => 24 + 48 * rs.length
  | .decimal => 24 * 280
  | .blank => 24 * 20
  | .word => 24 * 1400
  | .union a b => setSize a + setSize b
  | .inter a b => setSize a + setSize b
  | .diff a b => setSize a + setSize b
  | .symmDiff a b => setSize a + setSize b
  | .compl a => setSize a + 24 * 6
  | .folded a => setSize a
  | .asciiFolded a => setSize a

/-- The octets that an automaton takes, roughly; repetitions are written out. -/
def programSize : Program → Nat
  | .empty => 24
  | .set chars => setSize chars
  | .place _ => 24
  | .seq a b => programSize a + programSize b
  | .choice a b => programSize a + programSize b + 48
  | .rep low none body => programSize body * max low 1 + 48
  | .rep low (some high) body => programSize body * max low high + 48

/-- The octets that an automaton may take. -/
def maxSize : Nat := 10485760

end HttpScenario.Pattern
