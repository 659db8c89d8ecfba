import Gatehouse.Pattern.Syntax

/- Whole-value matching, by trying alternatives in order. `run` finds a way through a pattern after which the
   continuation succeeds. A repetition that may stop does not go on from where its last round began, so a round
   that took nothing ends it. -/
namespace Gatehouse.Pattern

-- The text that a group took last, and where it stopped.
structure Taken where
  index : Nat
  stop : Nat
  text : List Char

structure Cursor where
  place : Nat
  -- The characters already passed, the nearest first.
  before : List Char
  rest : List Char
  groups : List Taken

abbrev Next := Cursor → Option Cursor

namespace Cursor

def start (text : List Char) : Cursor := ⟨0, [], text, []⟩

def group? (cursor : Cursor) (index : Nat) : Option (List Char) :=
  (cursor.groups.find? fun group => group.index == index).map Taken.text

-- A group that begins anew has no text any more, unless its last text stops just here or later.
def reopen (cursor : Cursor) (index : Nat) : Cursor :=
  { cursor with groups := cursor.groups.filter fun group => group.index != index || cursor.place ≤ group.stop }

-- Keeps what was passed since `opening` as the text of a group.
def keep (cursor opening : Cursor) (index : Nat) : Cursor :=
  let text := opening.rest.take (cursor.place - opening.place)
  { cursor with
    groups := ⟨index, cursor.place, text⟩ :: cursor.groups.filter fun group => group.index != index }

def take? (test : Char → Bool) (cursor : Cursor) : Option Cursor :=
  match cursor.rest with
  | c :: rest => if test c then some ⟨cursor.place + 1, c :: cursor.before, rest, cursor.groups⟩ else none
  | [] => none

-- Takes a text again, up to the case of letters.
def takeText? (folding : Folding) : List Char → Cursor → Option Cursor
  | [], cursor => some cursor
  | c :: text, cursor => (cursor.take? fun other => folding.fold c == folding.fold other).bind (takeText? folding text)

def back? : Nat → Cursor → Option Cursor
  | 0, cursor => some cursor
  | count + 1, cursor =>
    match cursor.before with
    | c :: before => back? count ⟨cursor.place - 1, before, c :: cursor.rest, cursor.groups⟩
    | [] => none

end Cursor

def isWordHere (asciiOnly : Bool) (text : List Char) : Bool :=
  match text with
  | c :: _ => (Category.mk .word false asciiOnly).has c
  | [] => false

-- An empty value has neither edges nor places between them.
def anchorHolds (cursor : Cursor) : Anchor → Bool
  | .textStart => cursor.before.isEmpty
  | .lineStart => cursor.before.isEmpty || cursor.before.head? == some '\n'
  | .textEnd => cursor.rest.isEmpty
  | .lastLineEnd => cursor.rest.isEmpty || cursor.rest == ['\n']
  | .lineEnd => cursor.rest.isEmpty || cursor.rest.head? == some '\n'
  | .edge asciiOnly =>
    !(cursor.before.isEmpty && cursor.rest.isEmpty) &&
      isWordHere asciiOnly cursor.before != isWordHere asciiOnly cursor.rest
  | .noEdge asciiOnly =>
    !(cursor.before.isEmpty && cursor.rest.isEmpty) &&
      isWordHere asciiOnly cursor.before == isWordHere asciiOnly cursor.rest

-- The rounds that a repetition must have.
def atLeast (round : Cursor → Next → Option Cursor) (next : Next) : Nat → Next
  | 0, cursor => next cursor
  | count + 1, cursor => round cursor (atLeast round next count)

-- The rounds that a repetition may have: `room` bounds their number and `last` is where the last one began.
def further (lazily : Bool) (round : Cursor → Next → Option Cursor) (next : Next) :
    Nat → Option Nat → Option Nat → Next
  | 0, _, _, _ => none
  | fuel + 1, room, last, cursor =>
    let more (_ : Unit) : Option Cursor :=
      if room == some 0 || last == some cursor.place then none
      else round cursor (further lazily round next fuel (room.map (· - 1)) (some cursor.place))
    if lazily then
      match next cursor with
      | some done => some done
      | none => more ()
    else
      match more () with
      | some done => some done
      | none => next cursor

-- As many rounds as there are, each taken the first way it can be.
def exhaust (round : Next) : Nat → Option Nat → Option Nat → Cursor → Cursor
  | 0, _, _, cursor => cursor
  | fuel + 1, room, last, cursor =>
    if room == some 0 || last == some cursor.place then cursor
    else match round cursor with
      | some later => exhaust round fuel (room.map (· - 1)) (some cursor.place) later
      | none => cursor

def fuelAt (cursor : Cursor) : Nat := cursor.rest.length + 2

def repeated (greed : Greed) (least : Nat) (most : Option Nat) (round : Cursor → Next → Option Cursor)
    (cursor : Cursor) (next : Next) : Option Cursor :=
  let room := most.map (· - least)
  match greed with
  | .possessive =>
    (atLeast (fun cursor next => (round cursor some).bind next) some least cursor).bind fun cursor =>
      next (exhaust (fun cursor => round cursor some) (fuelAt cursor) room none cursor)
  | .greedy => atLeast round (fun cursor => further false round next (fuelAt cursor) room none cursor) least cursor
  | .lazy => atLeast round (fun cursor => further true round next (fuelAt cursor) room none cursor) least cursor

def run : Pattern → Cursor → Next → Option Cursor
  | .empty, cursor, next => next cursor
  | .char code folding, cursor, next => (cursor.take? (folding.same code)).bind next
  | .set chars, cursor, next => (cursor.take? chars.has).bind next
  | .any newlines, cursor, next => (cursor.take? fun c => newlines || c != '\n').bind next
  | .anchor place, cursor, next => if anchorHolds cursor place then next cursor else none
  | .seq first second, cursor, next => run first cursor fun cursor => run second cursor next
  | .alt first second, cursor, next =>
    match run first cursor next with
    | some done => some done
    | none => run second cursor next
  | .group index body, cursor, next =>
    run body (cursor.reopen index) fun later => next (later.keep cursor index)
  | .rep greed least most body, cursor, next => repeated greed least most (run body) cursor next
  | .atomic body, cursor, next => (run body cursor some).bind next
  | .look ahead negated body, cursor, next =>
    let found := (if ahead then some cursor else cursor.back? body.width.1).bind fun start => run body start some
    match found, negated with
    | some inside, false => next { cursor with groups := inside.groups }
    | none, true => next cursor
    | _, _ => none
  | .again index folding _ _, cursor, next =>
    match cursor.group? index with
    | some text => (Cursor.takeText? folding text cursor).bind next
    | none => none
  | .ifGroup index yes no, cursor, next =>
    if (cursor.group? index).isSome then run yes cursor next else run no cursor next

def matchesList (pattern : Pattern) (text : List Char) : Bool :=
  (run pattern (.start text) fun cursor => if cursor.rest.isEmpty then some cursor else none).isSome

def matchesText (pattern : Pattern) (text : String) : Bool := pattern.matchesList text.toList

end Gatehouse.Pattern
