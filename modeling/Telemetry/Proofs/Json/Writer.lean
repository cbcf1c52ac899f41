import Telemetry.Json.Writer
import Telemetry.Proofs.Json.Faithful

/-!
# What is written step by step is read back

Whatever is called in whatever order, the text that a `JsonWriter` has written is a JSON text, and a
reader finds the calls in it (`JsonWriter.calls_read_back`).  Between two calls the text is what
stood before the object or array was opened, the bracket, and the members so far with commas between
them, and the count is their number (`JsonWriter.Holds`).  A call adds one member, whatever a nested
writer does meanwhile (`JsonWriter.Adds`): to the outer writer it is a value that is appended.  So
there is one law for each method (`JsonWriter.Writes.pair` and what follows it), and trees of calls
are put together from these.

Documents are written this way too, and it gives the text that they have (`Doc.write_eq`).
-/

namespace Telemetry

/-- What is written is appended, and it does not depend on what stands before. -/
def Text.Appends (write : String → String) (text : List Char) : Prop :=
  ∀ out, (write out).toList = out.toList ++ text

namespace Text

theorem Appends.eq {write : String → String} {text : List Char} (h : Appends write text)
    (out : String) : write out = out ++ String.ofList text := by
  rw [← String.toList_inj, h out, String.toList_append, String.toList_ofList]

theorem appends_append (s : String) : Appends (fun out => out ++ s) s.toList :=
  fun _ => String.toList_append ..

theorem appends_ofList (text : List Char) : Appends (fun out => out ++ String.ofList text) text :=
  fun out => by rw [String.toList_append, String.toList_ofList]

/-! ### String literals -/

theorem appends_pushEscaped (c : Char) :
    Appends (fun out => pushEscaped out c) (Doc.escapedChar c) := by
  intro out
  unfold pushEscaped Doc.escapedChar
  split_ifs with hquote hbackslash hreturn hnewline htab hcontrol
  · exact String.toList_append ..
  · exact String.toList_append ..
  · exact String.toList_append ..
  · exact String.toList_append ..
  · exact String.toList_append ..
  · -- of the four digits of a control character the first two are zero
    have hdigits : Hex.word 4 c.toNat =
        ['0', '0', (c.toNat / 16).digitChar, (c.toNat % 16).digitChar] := by
      have h : ∀ n < 0x20, Hex.word 4 n =
          ['0', '0', (n / 16).digitChar, (n % 16).digitChar] := by decide
      exact h c.toNat hcontrol
    simp [hdigits]
  · exact String.toList_push ..

theorem appends_pushLiteral (s : String) :
    Appends (fun out => pushLiteral out s) (Doc.literal s.toList) := by
  have hfold (cs : List Char) (out : String) :
      (cs.foldl pushEscaped out).toList = out.toList ++ cs.flatMap Doc.escapedChar := by
    induction cs generalizing out with
    | nil => rw [List.foldl_nil, List.flatMap_nil, List.append_nil]
    | cons c cs ih =>
      rw [List.foldl_cons, ih, appends_pushEscaped c out, List.flatMap_cons, List.append_assoc]
  intro out
  change ((s.toList.foldl pushEscaped (out.push '"')).push '"').toList = _
  rw [String.toList_push, hfold, String.toList_push, Doc.literal]
  simp

end Text

namespace JsonWriter

/-! ### Members and items -/

/-- The texts have been written, with commas between them, behind what stood there before. -/
structure Holds (w : JsonWriter) (front : List Char) (texts : List (List Char)) : Prop where
  out : w.out.toList = front ++ Doc.withCommas texts
  count : w.count = texts.length

theorem Holds.separator {w : JsonWriter} {front : List Char} {texts : List (List Char)}
    (h : w.Holds front texts) {out : String} {text : List Char}
    (hout : out.toList = w.separator.out.toList ++ text) :
    Holds ⟨out, w.separator.count⟩ front (texts ++ [text]) where
  out := by
    rw [hout, JsonWriter.separator]
    by_cases hempty : texts = []
    · -- the first text needs no comma
      have hcount : w.count = 0 := by rw [h.count, hempty, List.length_nil]
      rw [if_neg (not_not.mpr hcount), h.out, hempty, List.append_assoc]
      rfl
    · have hcount : w.count ≠ 0 := by rwa [h.count, ne_eq, List.length_eq_zero_iff]
      rw [if_pos hcount, String.toList_push, h.out, Json.withCommas_concat hempty,
        List.append_assoc, List.append_assoc, List.singleton_append]
  count := by rw [JsonWriter.separator, h.count, List.length_append, List.length_singleton]

/-- What is done with a writer adds members or items with these texts, whatever was written
before. -/
def Adds (f : JsonWriter → JsonWriter) (texts : List (List Char)) : Prop :=
  ∀ w front before, Holds w front before → (f w).Holds front (before ++ texts)

theorem adds_nil : Adds (fun w => w) [] := by
  intro w front before h
  rwa [List.append_nil]

theorem Adds.append {f g : JsonWriter → JsonWriter} {texts more : List (List Char)}
    (hf : Adds f texts) (hg : Adds g more) : Adds (fun w => g (f w)) (texts ++ more) := by
  intro w front before h
  rw [← List.append_assoc]
  exact hg _ _ _ (hf _ _ _ h)

section Values

variable {value : String → String} {text : List Char} (h : Text.Appends value text)
include h

theorem adds_item : Adds (fun w => w.item value) [text] :=
  fun w _ _ hw => hw.separator (h w.separator.out)

theorem adds_pair (name : String) :
    Adds (fun w => w.pair name value)
      [Doc.memberText (Doc.literal (Doc.escapedName name.toList)) text] := by
  intro w front before hw
  refine hw.separator ?_
  rw [h, key, String.toList_push, Text.appends_pushLiteral _ w.separator.out, String.toList_ofList,
    Doc.memberText]
  simp

end Values

/-! ### Objects and arrays -/

section Nested

variable {f : JsonWriter → JsonWriter} {texts : List (List Char)} (h : Adds f texts)
include h

theorem appends_writeObject :
    Text.Appends (fun out => writeObject out f) (Doc.objectText texts) := by
  intro out
  have hstart : Holds ⟨out.push '\x7b', 0⟩ (out.toList ++ ['\x7b']) [] :=
    ⟨by rw [String.toList_push, Doc.withCommas, List.append_nil], rfl⟩
  change ((f ⟨out.push '\x7b', 0⟩).out.push '\x7d').toList = _
  rw [String.toList_push, (h _ _ _ hstart).out, Doc.objectText]
  simp

theorem appends_writeArray :
    Text.Appends (fun out => writeArray out f) ('[' :: Doc.withCommas texts ++ [']']) := by
  intro out
  have hstart : Holds ⟨out.push '[', 0⟩ (out.toList ++ ['[']) [] :=
    ⟨by rw [String.toList_push, Doc.withCommas, List.append_nil], rfl⟩
  change ((f ⟨out.push '[', 0⟩).out.push ']').toList = _
  rw [String.toList_push, (h _ _ _ hstart).out]
  simp

end Nested

end JsonWriter

/-! ### Documents -/

namespace Doc

mutual

theorem appends_write : ∀ doc : Doc, Text.Appends doc.write doc.text
  | .bool true | .bool false => Text.appends_append _
  | .double x => Text.appends_ofList (doubleText x)
  | .string s => Text.appends_pushLiteral s
  | .tagged _ => Text.appends_ofList _
  | .array items => JsonWriter.appends_writeArray (adds_writeItems items)
  | .map members => JsonWriter.appends_writeObject (adds_writeMembers members)

theorem adds_writeItems : ∀ items : List Doc, JsonWriter.Adds (writeItems items) (itemTexts items)
  | [] => JsonWriter.adds_nil
  | doc :: more => (JsonWriter.adds_item (appends_write doc)).append (adds_writeItems more)

theorem adds_writeMembers : ∀ members : List (String × Doc),
    JsonWriter.Adds (writeMembers members) (memberTexts members)
  | [] => JsonWriter.adds_nil
  | (name, doc) :: more =>
    (JsonWriter.adds_pair (appends_write doc) name).append (adds_writeMembers more)

end

/-- **A document that is written step by step has its canonical text.** -/
theorem write_eq (doc : Doc) (out : String) : doc.write out = out ++ doc.render :=
  (appends_write doc).eq out

end Doc

namespace JsonWriter

/-! ### Calls -/

/-- What is given for a member or an item: a document whose tags need no escaping. -/
abbrev Given := { doc : Doc // doc.HasPlainTags }

mutual

/-- A call on the writer of an object.  What is called on a nested writer is part of the call. -/
inductive MemberCall where
  | pair (name : String) (value : Given)
  | submap (name : String) (calls : List MemberCall)
  | array (name : String) (calls : List ItemCall)

/-- A call on the writer of an array. -/
inductive ItemCall where
  | item (value : Given)
  | submap (calls : List MemberCall)

end

mutual

/-- Carries out a call on the writer of an object. -/
def runMember : MemberCall → JsonWriter → JsonWriter
  | .pair name value, w => w.pair name value.1.write
  | .submap name calls, w => w.submap name (runMembers calls)
  | .array name calls, w => w.array name (runItems calls)

/-- Carries out calls on the writer of an object one after the other. -/
def runMembers : List MemberCall → JsonWriter → JsonWriter
  | [], w => w
  | call :: calls, w => runMembers calls (runMember call w)

/-- Carries out a call on the writer of an array. -/
def runItem : ItemCall → JsonWriter → JsonWriter
  | .item value, w => w.item value.1.write
  | .submap calls, w => w.itemSubmap (runMembers calls)

/-- Carries out calls on the writer of an array one after the other. -/
def runItems : List ItemCall → JsonWriter → JsonWriter
  | [], w => w
  | call :: calls, w => runItems calls (runItem call w)

end

mutual

/-- The member that a call says. -/
def memberOf : MemberCall → Option String × Json
  | .pair name value => (some (Doc.shownName name), value.1.tree)
  | .submap name calls => (some (Doc.shownName name), .object (membersOf calls))
  | .array name calls => (some (Doc.shownName name), .array (itemsOf calls))

/-- The members that calls say. -/
def membersOf : List MemberCall → List (Option String × Json)
  | [] => []
  | call :: calls => memberOf call :: membersOf calls

/-- The item that a call says. -/
def itemOf : ItemCall → Json
  | .item value => value.1.tree
  | .submap calls => .object (membersOf calls)

/-- The items that calls say. -/
def itemsOf : List ItemCall → List Json
  | [] => []
  | call :: calls => itemOf call :: itemsOf calls

end

theorem membersOf_eq_map (calls : List MemberCall) : membersOf calls = calls.map memberOf := by
  induction calls with
  | nil => rfl
  | cons call calls ih => rw [membersOf, ih, List.map_cons]

theorem itemsOf_eq_map (calls : List ItemCall) : itemsOf calls = calls.map itemOf := by
  induction calls with
  | nil => rfl
  | cons call calls ih => rw [itemsOf, ih, List.map_cons]

/-! ### What calls write -/

/-- The text of the value is appended, and the value is read in it. -/
structure Writes (write : String → String) (value : Json) : Prop where
  appends : Text.Appends write value.text
  reads : Json.Reads value.text value

/-- The texts of the members are added, and each member is read in its text. -/
structure WritesMembers (f : JsonWriter → JsonWriter) (members : List (Option String × Json)) :
    Prop where
  adds : Adds f (Json.memberTexts members)
  reads : List.Forall₂ Json.ReadsMember (Json.memberTexts members) members

/-- The texts of the items are added, and each item is read in its text. -/
structure WritesItems (f : JsonWriter → JsonWriter) (items : List Json) : Prop where
  adds : Adds f (Json.itemTexts items)
  reads : List.Forall₂ Json.Reads (Json.itemTexts items) items

section Laws

variable {f g : JsonWriter → JsonWriter} {write : String → String} {value : Json}

theorem Writes.pair (h : Writes write value) (name : String) :
    WritesMembers (fun w => w.pair name write) [(some (Doc.shownName name), value)] := by
  have hname : Doc.literal (Doc.escapedName name.toList) =
      Doc.literal (Doc.shownName name).toList := by rw [Doc.shownName, String.toList_ofList]
  refine ⟨?_, .cons ⟨Doc.shownName name, value.text, rfl, rfl, h.reads⟩ .nil⟩
  have hadds := adds_pair h.appends name
  rwa [hname] at hadds

theorem Writes.item (h : Writes write value) : WritesItems (fun w => w.item write) [value] :=
  ⟨adds_item h.appends, .cons h.reads .nil⟩

theorem WritesMembers.cons {member : Option String × Json}
    {members : List (Option String × Json)} (hf : WritesMembers f [member])
    (hg : WritesMembers g members) : WritesMembers (fun w => g (f w)) (member :: members) where
  adds := hf.adds.append hg.adds
  reads := List.rel_append hf.reads hg.reads

theorem WritesItems.cons {item : Json} {items : List Json} (hf : WritesItems f [item])
    (hg : WritesItems g items) : WritesItems (fun w => g (f w)) (item :: items) where
  adds := hf.adds.append hg.adds
  reads := List.rel_append hf.reads hg.reads

theorem WritesMembers.object {members : List (Option String × Json)} (h : WritesMembers f members) :
    Writes (fun out => writeObject out f) (.object members) :=
  ⟨appends_writeObject h.adds, Json.reads_object h.reads⟩

theorem WritesItems.array {items : List Json} (h : WritesItems f items) :
    Writes (fun out => writeArray out f) (.array items) :=
  ⟨appends_writeArray h.adds, Json.reads_array h.reads⟩

theorem writes_given (given : Given) : Writes given.1.write given.1.tree := by
  have hreads := Doc.reads_text given.2
  have happends := given.1.appends_write
  rw [← Doc.text_tree given.2] at hreads happends
  exact ⟨happends, hreads⟩

theorem writes_pushLiteral (s : String) :
    Writes (fun out => Text.pushLiteral out s) (.string (some s)) :=
  ⟨Text.appends_pushLiteral s, Json.reads_literal s⟩

end Laws

mutual

/-- A call writes what it says, with all that is called on nested writers inside. -/
theorem writesMembers_runMember : ∀ call : MemberCall,
    WritesMembers (runMember call) [memberOf call]
  | .pair name value => (writes_given value).pair name
  | .submap name calls => (writesMembers_runMembers calls).object.pair name
  | .array name calls => (writesItems_runItems calls).array.pair name

theorem writesMembers_runMembers : ∀ calls : List MemberCall,
    WritesMembers (runMembers calls) (membersOf calls)
  | [] => ⟨adds_nil, .nil⟩
  | call :: calls => (writesMembers_runMember call).cons (writesMembers_runMembers calls)

theorem writesItems_runItem : ∀ call : ItemCall, WritesItems (runItem call) [itemOf call]
  | .item value => (writes_given value).item
  | .submap calls => (writesMembers_runMembers calls).object.item

theorem writesItems_runItems : ∀ calls : List ItemCall,
    WritesItems (runItems calls) (itemsOf calls)
  | [] => ⟨adds_nil, .nil⟩
  | call :: calls => (writesItems_runItem call).cons (writesItems_runItems calls)

end

/-! ### Reading back -/

/-- The text is that of the value, and a reader finds the value in it. -/
structure IsTextOf (written : String) (value : Json) : Prop where
  text : written.toList = value.text
  read : Json.read? (Text.utf8 written) = some value

theorem Writes.exists_written {write : String → String} {value : Json} (h : Writes write value)
    (out : String) : ∃ written, write out = out ++ written ∧ IsTextOf written value := by
  refine ⟨String.ofList value.text, h.appends.eq out, String.toList_ofList, ?_⟩
  rw [Json.read?, Bytes.chars_utf8, String.toList_ofList]
  exact h.reads.readChars?

/-- **What is called is read back.**  Whatever the calls are, and wherever they are carried out, a
JSON text is appended in which a reader finds the object or the array: one member or item for each
call, in the order of the calls, under the name that was given, and with what was called on nested
writers inside.  Nothing else than an underscore before an underscore is added to a name.  Every
string is read as it was given, and a document is written by such calls. -/
theorem calls_read_back :
    (∀ (out : String) (calls : List MemberCall), ∃ written : String,
      writeObject out (runMembers calls) = out ++ written ∧
      IsTextOf written (.object (calls.map memberOf))) ∧
    (∀ (out : String) (calls : List ItemCall), ∃ written : String,
      writeArray out (runItems calls) = out ++ written ∧
      IsTextOf written (.array (calls.map itemOf))) ∧
    (∀ out s : String, ∃ written : String,
      Text.pushLiteral out s = out ++ written ∧ IsTextOf written (.string (some s))) ∧
    (∀ name : String, Doc.shownName name =
      if name.toList.head? = some '_' then String.ofList ('_' :: name.toList) else name) ∧
    ∀ (doc : Doc) (out : String), doc.write out = out ++ doc.render := by
  refine ⟨fun out calls => ?_, fun out calls => ?_,
    fun out s => (writes_pushLiteral s).exists_written out, fun name => ?_, Doc.write_eq⟩
  · rw [← membersOf_eq_map]
    exact (writesMembers_runMembers calls).object.exists_written out
  · rw [← itemsOf_eq_map]
    exact (writesItems_runItems calls).array.exists_written out
  · split
    · rename_i hunderscore
      exact Doc.shownName_of_head? hunderscore
    · rename_i hother
      exact Doc.shownName_eq_self hother

/-- A nested object counts its own members, and the comma after it is that of the outer one. -/
example :
    writeObject "" (fun w =>
      let nested := (w.pair "_a" (Doc.string "\n").write).submap "b" fun w => w
      nested.pair "b" (Doc.bool true).write) =
      "\x7b\"__a\":\"\\n\",\"b\":\x7b\x7d,\"b\":true\x7d" := by
  decide

end JsonWriter

end Telemetry
