import Rowbase.Connection
import Rowbase.Proofs.PlainResponses

/-!
# Framed replies

A client that sends lines gets one framed response to each of them, up to the first line that is
too long or no text. The end mark stands in no response, so the client finds the responses again
by cutting the reply wherever a line holds the end mark alone.
-/

namespace Rowbase

/-! ## Cutting a text at a separator -/

namespace Text

/-- The parts of a text between the occurrences of a separator, which are found one after the
other from the start. -/
def cutAt (separator : List Char) : List Char → List (List Char)
  | [] => [[]]
  | c :: rest =>
    if separator.isPrefixOf (c :: rest) then
      [] :: cutAt separator (rest.drop (separator.length - 1))
    else
      match cutAt separator rest with
      | [] => [[c]]
      | first :: others => (c :: first) :: others
termination_by text => text.length
decreasing_by
  · rw [List.length_drop, List.length_cons]
    omega
  · rw [List.length_cons]
    omega

/-- A part ends at the separator behind it, if it has no occurrence of the separator's second
character. -/
theorem cutAt_append {start mark : Char} {more part : List Char} (hne : start ≠ mark)
    (hpart : mark ∉ part) (rest : List Char) :
    cutAt (start :: mark :: more) (part ++ (start :: mark :: more) ++ rest) =
      part :: cutAt (start :: mark :: more) rest := by
  induction part with
  | nil =>
      have hprefix : (start :: mark :: more).isPrefixOf (start :: mark :: (more ++ rest)) := by
        simp
      rw [List.nil_append, List.cons_append, List.cons_append, cutAt, if_pos hprefix]
      simp
  | cons c part ih =>
      obtain ⟨-, hrest⟩ := not_or.mp (fun h => hpart (List.mem_cons.mpr h))
      have hprefix :
          (start :: mark :: more).isPrefixOf (c :: (part ++ (start :: mark :: more) ++ rest)) =
            false := by
        rw [← Bool.not_eq_true, List.isPrefixOf_iff_prefix, List.cons_prefix_cons]
        rintro ⟨-, hsecond⟩
        cases part with
        | nil => exact hne (List.cons_prefix_cons.mp hsecond).1.symm
        | cons next part =>
            exact hrest ((List.cons_prefix_cons.mp hsecond).1 ▸ List.mem_cons_self)
      rw [List.cons_append, List.cons_append, cutAt, hprefix, ih hrest]
      rfl

/-- Parts that are each followed by the separator are found again. -/
theorem cutAt_flatMap {start mark : Char} {more : List Char} (hne : start ≠ mark)
    {parts : List (List Char)} (h : ∀ part ∈ parts, mark ∉ part) :
    cutAt (start :: mark :: more) (parts.flatMap (· ++ (start :: mark :: more))) =
      parts ++ [[]] := by
  induction parts with
  | nil => rw [List.flatMap_nil, cutAt, List.nil_append]
  | cons part rest ih =>
      obtain ⟨hpart, hrest⟩ := List.forall_mem_cons.mp h
      rw [List.flatMap_cons, cutAt_append hne hpart, ih hrest, List.cons_append]

end Text

/-! ## Sessions line by line -/

namespace Session

/-- Runs lines one after the other and gives the response to each. -/
def respondAll (session : Session) (store : Store) : List String → Store × List String
  | [] => (store, [])
  | line :: rest =>
    let (session, store, response) := session.respond store line
    let (store, responses) := session.respondAll store rest
    (store, response :: responses)

theorem length_respondAll (session : Session) (store : Store) (lines : List String) :
    (session.respondAll store lines).2.length = lines.length := by
  induction lines generalizing session store with
  | nil => rfl
  | cons line rest ih => exact congrArg Nat.succ (ih _ _)

/-- No end mark stands in a response to a plain session. -/
theorem endMark_notMem_respondAll {place : String} {session : Session} {store : Store}
    (h : store.Plain place) (hcurrent : session.CurrentPlain) (lines : List String) :
    ∀ response ∈ (session.respondAll store lines).2, '\x04' ∉ response.toList := by
  induction lines generalizing session store with
  | nil => exact fun _ hresponse => by cases hresponse
  | cons line rest ih =>
      have hloads := Storage.loadsPlainly_of_holds h.stored
      obtain ⟨hnext, hafter, houtcome⟩ := plain_run h hloads hcurrent line
      refine List.forall_mem_cons.mpr ⟨?_, ih hafter hnext⟩
      intro hmark
      obtain ⟨-, hlayout⟩ := Response.control_of_mem_ofOutcome houtcome hmark (by decide)
      exact absurd hlayout (by decide)

end Session

/-! ## Lines of bytes -/

namespace Connection

/-- Bytes that are cut at their line ends, and what stands behind the last of these. -/
structure Cut (bytes : List UInt8) (ended : List (List UInt8)) (last : List UInt8) : Prop where
  whole : bytes = ended.flatMap (· ++ ['\n'.toUInt8]) ++ last
  ended : ∀ line ∈ ended, '\n'.toUInt8 ∉ line
  last : '\n'.toUInt8 ∉ last

/-- The lines of some bytes. What stands behind the last line end is a line of its own unless it is
empty or a lone carriage return. -/
inductive Sends (bytes : List UInt8) : List (List UInt8) → Prop where
  | ended {ended : List (List UInt8)} {last : List UInt8} (cut : Cut bytes ended last)
      (nothing : last = [] ∨ last = ['\r'.toUInt8]) : Sends bytes ended
  | unended {ended : List (List UInt8)} {last : List UInt8} (cut : Cut bytes ended last)
      (something : ¬(last = [] ∨ last = ['\r'.toUInt8])) : Sends bytes (ended ++ [last])

/-- The text that a line carries: its bytes are those of the line, but for one carriage return at
the very end. -/
inductive Carries : List UInt8 → String → Prop where
  | returned (text : String) : Carries (text.toUTF8.data.toList ++ ['\r'.toUInt8]) text
  | plain {text : String} (unreturned : text.toUTF8.data.toList.getLast? ≠ some '\r'.toUInt8) :
      Carries text.toUTF8.data.toList text

/-- The texts of the lines before the first that is too long or carries no text, and what is said
when the connection ends at that line. -/
inductive Taken : List (List UInt8) → List String → List String → Prop where
  | all : Taken [] [] []
  | overlong {line : List UInt8} (long : 65536 < line.length) (rest : List (List UInt8)) :
      Taken (line :: rest) [] ["[ERROR]: command longer than 65536 bytes"]
  | illegible {line : List UInt8} (short : line.length ≤ 65536)
      (noText : ∀ text, ¬Carries line text) (rest : List (List UInt8)) :
      Taken (line :: rest) [] []
  | legible {line : List UInt8} {text : String} {rest : List (List UInt8)}
      {texts farewell : List String} (short : line.length ≤ 65536) (carried : Carries line text)
      (others : Taken rest texts farewell) : Taken (line :: rest) (text :: texts) farewell

/-! ## The lines of a client -/

variable {bytes last otherLast line : List UInt8} {ended otherEnded sent : List (List UInt8)}

theorem notMem_takeWhile (bytes : List UInt8) : newline ∉ bytes.takeWhile (· ≠ newline) := by
  intro hmem
  have hall := List.all_eq_true.mp (List.all_takeWhile (p := (· ≠ newline)) (l := bytes))
  simpa using hall newline hmem

theorem cut_split (bytes : List UInt8) : Cut bytes (split bytes).1 (split bytes).2 := by
  fun_induction split bytes with
  | case1 bytes hdrop =>
      refine ⟨rfl, by simp, fun hmem => ?_⟩
      simpa using List.dropWhile_eq_nil_iff.mp hdrop newline hmem
  | case2 bytes first rest hdrop ended last heq ih =>
      rw [heq] at ih
      have hfirst : first = newline := by
        have hhead := List.head?_dropWhile_not (· ≠ newline) bytes
        rw [hdrop] at hhead
        simpa using hhead
      have hbytes := List.takeWhile_append_dropWhile (p := (· ≠ newline)) (l := bytes)
      rw [hdrop, hfirst, ih.whole] at hbytes
      refine ⟨?_, List.forall_mem_cons.mpr ⟨notMem_takeWhile bytes, ih.ended⟩, ih.last⟩
      rw [List.flatMap_cons, List.append_assoc, List.append_assoc]
      exact hbytes.symm

/-- A line ends at its first line end. -/
theorem eq_of_append_cons {other behind otherBehind : List UInt8} {c : UInt8} (hline : c ∉ line)
    (hother : c ∉ other) (h : line ++ c :: behind = other ++ c :: otherBehind) :
    line = other ∧ behind = otherBehind := by
  have htake {front : List UInt8} (hfront : c ∉ front) (rest : List UInt8) :
      (front ++ c :: rest).takeWhile (· ≠ c) = front := by
    have hrun : ∀ d ∈ front, decide (d ≠ c) := fun d hd =>
      decide_eq_true (ne_of_mem_of_not_mem hd hfront)
    rw [List.takeWhile_append_of_pos hrun, List.takeWhile_cons_of_neg (by simp), List.append_nil]
  obtain rfl : line = other := by
    rw [← htake hline behind, h, htake hother]
  exact ⟨rfl, (List.cons.inj (List.append_cancel_left h)).2⟩

theorem Cut.unended (h : Cut bytes [] last) : bytes = last :=
  h.whole

theorem Cut.whole_cons (h : Cut bytes (line :: ended) last) :
    bytes = line ++ '\n'.toUInt8 :: (ended.flatMap (· ++ ['\n'.toUInt8]) ++ last) := by
  rw [h.whole, List.flatMap_cons, List.append_assoc, List.append_assoc, List.singleton_append]

/-- Bytes are cut in one way only. -/
theorem Cut.unique (h : Cut bytes ended last) (hother : Cut bytes otherEnded otherLast) :
    ended = otherEnded ∧ last = otherLast := by
  induction ended generalizing bytes otherEnded with
  | nil =>
      cases otherEnded with
      | nil => exact ⟨rfl, h.unended.symm.trans hother.unended⟩
      | cons line rest =>
          have hlast := h.last
          rw [← h.unended, hother.whole_cons] at hlast
          simp at hlast
  | cons line rest ih =>
      cases otherEnded with
      | nil =>
          have hlast := hother.last
          rw [← hother.unended, h.whole_cons] at hlast
          simp at hlast
      | cons other others =>
          obtain ⟨hline, hrest⟩ := List.forall_mem_cons.mp h.ended
          obtain ⟨hother', hothers⟩ := List.forall_mem_cons.mp hother.ended
          have hwhole := h.whole_cons.symm.trans hother.whole_cons
          obtain ⟨rfl, hbehind⟩ := eq_of_append_cons hline hother' hwhole
          obtain ⟨rfl, rfl⟩ := ih ⟨rfl, hrest, h.last⟩ ⟨hbehind, hothers, hother.last⟩
          exact ⟨rfl, rfl⟩

theorem lines_eq_ite (bytes : List UInt8) :
    lines bytes = if (split bytes).2 = [] ∨ (split bytes).2 = ['\r'.toUInt8] then (split bytes).1
      else (split bytes).1 ++ [(split bytes).2] :=
  rfl

theorem sends_lines (bytes : List UInt8) : Sends bytes (lines bytes) := by
  rw [lines_eq_ite]
  split
  next hnothing => exact .ended (cut_split bytes) hnothing
  next hsomething => exact .unended (cut_split bytes) hsomething

theorem Sends.lines_eq (h : Sends bytes sent) : lines bytes = sent := by
  cases h with
  | ended cut nothing =>
      obtain ⟨hended, hlast⟩ := cut.unique (cut_split bytes)
      rw [hlast] at nothing
      rw [lines_eq_ite, if_pos nothing, hended]
  | unended cut something =>
      obtain ⟨hended, hlast⟩ := cut.unique (cut_split bytes)
      rw [hlast] at something
      rw [lines_eq_ite, if_neg something, hended, hlast]

/-! ## The texts of lines -/

variable {text : String} {texts farewell : List String}

theorem decode?_eq_some_iff : decode? line = some text ↔ Carries line text := by
  rw [decode?, Text.fromUTF8?_eq_some_iff]
  constructor
  · intro h
    have hbytes : text.toUTF8.data.toList = withoutReturn line := by rw [h]
    unfold withoutReturn at hbytes
    split at hbytes
    next hreturned =>
      obtain ⟨front, rfl⟩ := List.getLast?_eq_some_iff.mp hreturned
      rw [List.dropLast_concat] at hbytes
      rw [← hbytes]
      exact .returned text
    next hunreturned =>
      rw [← hbytes] at hunreturned ⊢
      exact .plain hunreturned
  · rintro (_ | hunreturned)
    · have hreturned : (text.toUTF8.data.toList ++ ['\r'.toUInt8]).getLast? =
          some carriageReturn := List.getLast?_concat
      rw [withoutReturn, if_pos hreturned, List.dropLast_concat]
    · have hplain : text.toUTF8.data.toList.getLast? ≠ some carriageReturn := hunreturned
      rw [withoutReturn, if_neg hplain]

theorem exists_taken (sent : List (List UInt8)) : ∃ texts farewell, Taken sent texts farewell := by
  induction sent with
  | nil => exact ⟨_, _, .all⟩
  | cons line rest ih =>
      by_cases hlong : 65536 < line.length
      · exact ⟨_, _, .overlong hlong rest⟩
      · have hshort := Nat.le_of_not_lt hlong
        by_cases htext : ∃ text, Carries line text
        · obtain ⟨text, hcarried⟩ := htext
          obtain ⟨texts, farewell, hothers⟩ := ih
          exact ⟨_, _, .legible hshort hcarried hothers⟩
        · exact ⟨_, _, .illegible hshort (not_exists.mp htext) rest⟩

/-! ## Replies -/

theorem frame_eq (response : String) : frame response = response ++ "\n\x04\n" := by
  rw [frame, String.append_assoc, String.append_assoc]
  rfl

theorem tooLong_eq : tooLong = "[ERROR]: command longer than 65536 bytes" := by
  decide +kernel

theorem react_of_overlong (long : 65536 < line.length) (session : Session) (store : Store) :
    react session store line =
      .closed ("[ERROR]: command longer than 65536 bytes" ++ "\n\x04\n") := by
  have hlimit : Settings.lineLimit < line.length := long
  rw [react, if_pos hlimit, frame_eq, tooLong_eq]

theorem react_of_illegible (short : line.length ≤ 65536) (noText : ∀ text, ¬Carries line text)
    (session : Session) (store : Store) : react session store line = .closed "" := by
  have hlimit : ¬Settings.lineLimit < line.length := Nat.not_lt.mpr short
  have hnone : decode? line = none := by
    rw [Option.eq_none_iff_forall_ne_some]
    exact fun text htext => noText text (decode?_eq_some_iff.mp htext)
  rw [react, if_neg hlimit, hnone]

theorem react_of_legible (short : line.length ≤ 65536) (carried : Carries line text)
    (session : Session) (store : Store) :
    react session store line =
      .answered (session.respond store text).1 (session.respond store text).2.1
        ((session.respond store text).2.2 ++ "\n\x04\n") := by
  have hlimit : ¬Settings.lineLimit < line.length := Nat.not_lt.mpr short
  rw [react, if_neg hlimit, decode?_eq_some_iff.mpr carried, ← frame_eq]

/-- The reply to lines holds the responses to their texts and the farewell, each followed by the end
mark on a line of its own. -/
theorem Taken.answer_eq (h : Taken sent texts farewell) (session : Session) (store : Store) :
    answer session store sent =
      ((session.respondAll store texts).1,
        String.join (((session.respondAll store texts).2 ++ farewell).map (· ++ "\n\x04\n"))) := by
  induction h generalizing session store with
  | all => rfl
  | overlong long rest =>
      rw [answer, react_of_overlong long]
      simp [Session.respondAll, String.join_cons]
  | illegible short noText rest =>
      rw [answer, react_of_illegible short noText]
      rfl
  | legible short carried others ih =>
      rw [answer, react_of_legible short carried]
      simp only [ih, Session.respondAll, List.cons_append, List.map_cons]
      rw [String.join_cons]

theorem Taken.endMark_notMem (h : Taken sent texts farewell) :
    ∀ response ∈ farewell, '\x04' ∉ response.toList := by
  induction h with
  | all => simp
  | overlong => exact List.forall_mem_singleton.mpr (by decide +kernel)
  | illegible => simp
  | legible _ _ _ ih => exact ih

/-- Framed responses are found again in a reply. -/
theorem cutAt_join {responses : List String}
    (h : ∀ response ∈ responses, '\x04' ∉ response.toList) :
    Text.cutAt "\n\x04\n".toList (String.join (responses.map (· ++ "\n\x04\n"))).toList =
      responses.map String.toList ++ [[]] := by
  have hframes : (String.join (responses.map (· ++ "\n\x04\n"))).toList =
      (responses.map String.toList).flatMap (· ++ "\n\x04\n".toList) := by
    rw [String.toList_join, List.flatMap_map, List.flatMap_map]
    simp only [String.toList_append]
  rw [hframes]
  apply Text.cutAt_flatMap (by decide)
  intro part hpart
  obtain ⟨response, hresponse, rfl⟩ := List.mem_map.mp hpart
  exact h response hresponse

/-- Whatever bytes a client sends to a store that commands have filled: its lines are answered in
order in a session of their own, up to the first that is too long or carries no text, and no line
behind that is run. The reply holds one framed response for each, and one more if that last line is
too long, and cutting it at the end marks gives exactly these responses. -/
theorem serve_framed (mode : Storage.Mode) (path : String) (history : List Service.Event)
    (bytes : List UInt8) :
    let store := ((Service.create { mode, folder := .create path }).handleAll history).1.store
    (∃ sent texts farewell, Sends bytes sent ∧ Taken sent texts farewell) ∧
      ∀ sent texts farewell, Sends bytes sent → Taken sent texts farewell →
        let answered := Session.create.respondAll store texts
        let responses := answered.2 ++ farewell
        serve store bytes = (answered.1, String.join (responses.map (· ++ "\n\x04\n"))) ∧
          answered.2.length = texts.length ∧
            Text.cutAt "\n\x04\n".toList (serve store bytes).2.toList =
              responses.map String.toList ++ [[]] := by
  intro store
  constructor
  · obtain ⟨texts, farewell, htaken⟩ := exists_taken (lines bytes)
    exact ⟨lines bytes, texts, farewell, sends_lines bytes, htaken⟩
  · intro sent texts farewell hsends htaken answered responses
    have hserve : serve store bytes =
        (answered.1, String.join (responses.map (· ++ "\n\x04\n"))) := by
      rw [serve, hsends.lines_eq]
      exact htaken.answer_eq .create store
    have hempty : (Folder.create path).Holds path PlainDocument :=
      ⟨rfl, fun place bytes hfile => by simp [Folder.create] at hfile⟩
    have hstart : (Service.create { mode, folder := .create path }).Plain path :=
      Service.plain_create hempty
    have hplain : store.Plain path := (hstart.after history).store
    have hcurrent : Session.create.CurrentPlain := fun name hname => by
      simp [Session.create] at hname
    refine ⟨hserve, Session.length_respondAll _ _ _, ?_⟩
    rw [hserve]
    apply cutAt_join
    exact List.forall_mem_append.mpr
      ⟨Session.endMark_notMem_respondAll hplain hcurrent _, htaken.endMark_notMem⟩

/-- Two commands, the second with an open quotation mark in front of a carriage return, a line, and
another command. -/
def interrupted (line : List UInt8) : List UInt8 :=
  "CREATE DATABASE d;\nUSE 'd\r\n".toUTF8.data.toList ++ line ++
    "\nDROP DATABASE d;".toUTF8.data.toList

theorem sends_interrupted (h : '\n'.toUInt8 ∉ line) :
    Sends (interrupted line) ["CREATE DATABASE d;".toUTF8.data.toList,
      "USE 'd".toUTF8.data.toList ++ ['\r'.toUInt8], line,
      "DROP DATABASE d;".toUTF8.data.toList] := by
  have hfirst : "CREATE DATABASE d;\nUSE 'd\r\n".toUTF8.data.toList =
      "CREATE DATABASE d;".toUTF8.data.toList ++ ['\n'.toUInt8] ++
        ("USE 'd".toUTF8.data.toList ++ ['\r'.toUInt8] ++ ['\n'.toUInt8]) := by
    decide +kernel
  have hlast : "\nDROP DATABASE d;".toUTF8.data.toList =
      ['\n'.toUInt8] ++ "DROP DATABASE d;".toUTF8.data.toList := by
    decide +kernel
  have hcut : Cut (interrupted line) ["CREATE DATABASE d;".toUTF8.data.toList,
      "USE 'd".toUTF8.data.toList ++ ['\r'.toUInt8], line]
      "DROP DATABASE d;".toUTF8.data.toList := by
    refine ⟨?_, List.forall_mem_cons.mpr ⟨by decide +kernel,
      List.forall_mem_cons.mpr ⟨by decide +kernel, List.forall_mem_singleton.mpr h⟩⟩,
      by decide +kernel⟩
    simp only [interrupted, hfirst, hlast, List.flatMap_cons, List.flatMap_nil, List.append_assoc,
      List.nil_append]
  exact .unended hcut (by decide +kernel)

/-- The second command is answered without its carriage return, which a text in quotation marks may
not hold. The line behind it is a byte too long, or no text; neither way is the command behind that
line run. -/
theorem serve_framed_of_interrupted :
    let store := (Service.create { mode := .memory, folder := .create "" }).store
    let created := (Session.create.respondAll store ["CREATE DATABASE d;", "USE 'd"]).1
    let answers :=
      "[OK]\n\x04\n[ERROR]: lex error: unterminated string literal\n\x04\n"
    serve store (interrupted (List.replicate 65537 'a'.toUInt8)) =
        (created, answers ++ "[ERROR]: command longer than 65536 bytes\n\x04\n") ∧
      serve store (interrupted [0xFF]) = (created, answers) ∧
        (created.databases.find? "d").isSome := by
  intro store created answers
  have hresponses : (Session.create.respondAll store ["CREATE DATABASE d;", "USE 'd"]).2 =
      ["[OK]", "[ERROR]: lex error: unterminated string literal"] := by
    decide +kernel
  have hserve {line : List UInt8} {farewell : List String} (hline : '\n'.toUInt8 ∉ line)
      (hstop : Taken [line, "DROP DATABASE d;".toUTF8.data.toList] [] farewell) :
      serve store (interrupted line) = (created, String.join
        ((["[OK]", "[ERROR]: lex error: unterminated string literal"] ++ farewell).map
          (· ++ "\n\x04\n"))) := by
    have hsecond := hstop.legible (by decide +kernel) (.returned "USE 'd")
    have hfirst : Carries "CREATE DATABASE d;".toUTF8.data.toList "CREATE DATABASE d;" :=
      .plain (by decide +kernel)
    have htaken := hsecond.legible (by decide +kernel) hfirst
    have hreply := (serve_framed .memory "" [] (interrupted line)).2 _ _ _
      (sends_interrupted hline) htaken
    rw [← hresponses]
    exact hreply.1
  refine ⟨?_, ?_, by decide +kernel⟩
  · have hlong : 65536 < (List.replicate 65537 'a'.toUInt8).length := by
      rw [List.length_replicate]
      exact Nat.lt_succ_self 65536
    have hline : '\n'.toUInt8 ∉ List.replicate 65537 'a'.toUInt8 := by
      rw [List.mem_replicate]
      decide
    exact hserve hline (.overlong hlong _)
  · have hnone : decode? [0xFF] = none := by decide +kernel
    have hnoText : ∀ text, ¬Carries [0xFF] text := by
      intro text hcarried
      rw [← decode?_eq_some_iff, hnone] at hcarried
      cases hcarried
    exact hserve (by decide) (.illegible (by decide) hnoText _)

end Connection

end Rowbase
