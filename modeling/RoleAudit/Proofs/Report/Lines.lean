import RoleAudit.Proofs.Policy.Display
import RoleAudit.Proofs.Report.Making
import RoleAudit.Proofs.Scan.Strictness
import RoleAudit.Proofs.Source.Names

/-!
# The lines of a report

A row is one line of the report, whatever the source holds: names stand on one line because they are
names, and all other texts are folded before they are written.

* `Declaration.isOneLine_rows`: no field of a row has a line break.
* `Order.lines_make`: behind its header, a report has a line for each row of its account.
* `Order.hasLines_make`: a report that was made has as many lines as were counted.
* `Order.newlines_make`: each of them has its line break at its end, and none inside.
-/

namespace RoleAudit

open RoleAudit.Text

/-! ## Rows -/

namespace Roles

/-- Names with separators between them stand on one line if they do. -/
lemma isOneLine_intercalate {names : List String} (h : ∀ name ∈ names, IsOneLine name.toList) :
    IsOneLine (separator.intercalate names).toList := by
  have hsep : IsOneLine separator.toList := isOneLine_of_all (by decide)
  induction names with
  | nil => exact IsOneLine.nil
  | cons name rest ih =>
    obtain ⟨hname, hrest⟩ := List.forall_mem_cons.1 h
    rcases rest with _ | ⟨next, rest⟩
    · rw [String.intercalate_singleton]
      exact hname
    · rw [String.intercalate_cons_cons, String.toList_append, String.toList_append]
      exact (hname.append hsep).append (ih hrest)

/-- A rendered set stands on one line. -/
lemma isOneLine_render (names : List String) : IsOneLine (render names).toList := by
  have hnames : IsOneLine (separator.intercalate (names.map singleLine)).toList := by
    apply isOneLine_intercalate
    intro name hname
    obtain ⟨text, -, rfl⟩ := List.mem_map.1 hname
    exact isOneLine_singleLine text
  have hclose : IsOneLine [']'] := IsOneLine.nil.cons (by decide)
  rw [toList_render]
  exact (hnames.append hclose).cons (by decide)

end Roles

/-- No field of the row has a line break. -/
def Row.IsOneLine (r : Row) : Prop := ∀ field ∈ r.fields, Text.IsOneLine field.toList

/-- A row without line breaks in its fields is one line. -/
lemma Row.IsOneLine.written {r : Row} (h : r.IsOneLine) : Text.IsOneLine r.written := by
  obtain ⟨hclass, hmember, hdescription, hroles⟩ :
      Text.IsOneLine r.className.toList ∧ Text.IsOneLine r.memberName.toList ∧
        Text.IsOneLine r.description.toList ∧ Text.IsOneLine r.roles.toList := by
    simpa [Row.IsOneLine, Row.fields] using h
  have hcomma : Text.IsOneLine [','] := IsOneLine.nil.cons (by decide)
  have hwritten : r.written = r.className.toList ++ [','] ++ r.memberName.toList ++ [','] ++
      r.description.toList ++ [','] ++ r.roles.toList ++ [','] := by
    unfold Row.written Row.fields
    simp [List.intercalate_cons_cons, List.intercalate_singleton]
  rw [hwritten]
  exact (((((((hclass.append hcomma).append hmember).append hcomma).append hdescription).append
    hcomma).append hroles).append hcomma)

/-- **No field of a row has a line break**, if the names of the type and its methods have none. -/
theorem Declaration.isOneLine_rows {d : Declaration} (hname : Text.IsOneLine d.name.toList)
    (hmembers : ∀ m ∈ d.members, m.kind = .method → Text.IsOneLine m.name.toList) :
    ∀ r ∈ d.rows, r.IsOneLine := by
  intro r hr
  rw [rows_eq_map_scopes] at hr
  obtain ⟨s, hs, rfl⟩ := List.mem_map.1 hr
  have hmember : Text.IsOneLine (d.rowOf s).memberName.toList := by
    cases s with
    | whole =>
      have hstar : Text.IsOneLine "*".toList := isOneLine_of_all (by decide)
      exact hstar
    | method m =>
      obtain ⟨hmem, hkind⟩ := mem_members_of_mem_scopes hs
      exact hmembers m hmem hkind
  have hroles : Text.IsOneLine (d.rowOf s).roles.toList := by
    unfold rowOf
    by_cases hopen : d.IsOpen s
    · have heveryone : Text.IsOneLine "[all]".toList := isOneLine_of_all (by decide)
      rw [if_pos hopen]
      exact heveryone
    · rw [if_neg hopen]
      exact Roles.isOneLine_render _
  unfold Row.IsOneLine Row.fields
  rw [List.forall_mem_cons, List.forall_mem_cons, List.forall_mem_cons, List.forall_mem_singleton]
  exact ⟨hname, hmember, Roles.isOneLine_render _, hroles⟩

/-! ## Sources -/

namespace Scan

open RoleAudit.Files

/-- Declarations are those of the tree that some bytes are read as. -/
lemma exists_bytes_of_declarationsIn {d : Disk} {strict : Bool} {path : String}
    {declarations : List Declaration} (h : declarationsIn d strict path = .ok declarations) :
    ∃ bytes, declarations = Source.declarations (Source.read bytes) := by
  have htree : ∀ t, treeAt d path = some t → ∃ bytes, Source.read bytes = t := by
    intro t ht
    unfold treeAt at ht
    split at ht
    · next bytes _ => exact ⟨bytes, Option.some.inj ht⟩
    · cases ht
  have hread : ∃ t, treeAt d path = some t ∧ declarations = Source.declarations t := by
    rcases declarationsIn_cases d path with
      ⟨t, ht, -, hread⟩ | ⟨t, ht, -, hstrict, hlenient⟩ | ⟨failure, -, hfailed⟩
    · exact ⟨t, ht, Except.ok.inj (h.symm.trans (hread strict))⟩
    · cases strict with
      | true => cases h.symm.trans hstrict
      | false => exact ⟨t, ht, Except.ok.inj (h.symm.trans hlenient)⟩
    · cases h.symm.trans (hfailed strict)
  obtain ⟨t, ht, hdeclarations⟩ := hread
  obtain ⟨bytes, hbytes⟩ := htree t ht
  refine ⟨bytes, ?_⟩
  rw [hbytes]
  exact hdeclarations

end Scan

namespace Report

open RoleAudit.Files

namespace Order

/-- The rows of an account are lines. -/
lemma isOneLine_rows_account (order : Order) (d : Disk) :
    ∀ r ∈ (order.account d).rows, r.IsOneLine := by
  intro row hrow
  obtain ⟨reading, hreading, hrow⟩ := List.mem_flatMap.1 hrow
  obtain ⟨declaration, hdeclaration, hrow⟩ := List.mem_flatMap.1 hrow
  obtain ⟨rows, hread⟩ := Account.mem_ofFiles hreading
  obtain ⟨bytes, hbytes⟩ := Scan.exists_bytes_of_declarationsIn hread
  rw [hbytes] at hdeclaration
  obtain ⟨hname, hmembers⟩ := Source.oneLine_of_mem_declarations_read bytes hdeclaration
  exact declaration.isOneLine_rows hname hmembers row hrow

/-- The header without its line break. -/
def headerLine : List Char := "Class Name,Method Name,Description,Roles,".toList

lemma reportHeader_eq : reportHeader.toList = headerLine ++ ['\n'] := by decide +kernel

lemma isOneLine_headerLine : IsOneLine headerLine := isOneLine_of_all (by decide +kernel)

/-- The bytes of texts in a row are those of the text that they are together. -/
lemma encode_flatMap (rows : List Row) :
    (rows.flatMap fun r => Utf8.encode r.line) =
      Utf8.encode (String.ofList (rows.flatMap fun r => r.line.toList)) := by
  unfold Utf8.encode
  rw [String.toList_ofList, List.flatMap_assoc]

/-- The lines of a report without their line breaks: its header, and one for each row of its
account. -/
def reportLines (order : Order) (d : Disk) : List (List Char) :=
  headerLine :: (order.account d).rows.map Row.written

lemma isOneLine_reportLines (order : Order) (d : Disk) :
    ∀ l ∈ order.reportLines d, IsOneLine l := by
  intro l hl
  rcases List.mem_cons.1 hl with rfl | hl
  · exact isOneLine_headerLine
  · obtain ⟨row, hrow, rfl⟩ := List.mem_map.1 hl
    exact (order.isOneLine_rows_account d row hrow).written

/-- A report is its lines, written one after the other. -/
lemma read_make_lines (order : Order) (d : Disk) (h : (order.opened d).error = none) :
    ∃ text : String, (order.make d).disk.read order.reportFile = .ok (Utf8.encode text) ∧
      text.toList = (order.reportLines d).flatMap fun l => l ++ ['\n'] := by
  obtain ⟨-, hread⟩ := order.read_make d h
  refine ⟨reportHeader ++
    String.ofList ((order.account d).rows.flatMap fun r => r.line.toList), ?_, ?_⟩
  · rw [hread, encode_flatMap, ← Utf8.encode_append]
  · unfold reportLines
    rw [String.toList_append, String.toList_ofList, reportHeader_eq, List.flatMap_cons,
      List.flatMap_map]
    simp only [Row.line_eq]

/-- **The lines of a report**: its header, and a line for each row of its account. No character of it
ends a line in any other way. -/
theorem lines_make (order : Order) (d : Disk) (h : (order.opened d).error = none) :
    ∃ text : String, (order.make d).disk.read order.reportFile = .ok (Utf8.encode text) ∧
      '\r' ∉ text.toList ∧
      lines text.toList = headerLine :: (order.account d).rows.map Row.written := by
  obtain ⟨text, hread, htext⟩ := order.read_make_lines d h
  have honeLine := order.isOneLine_reportLines d
  refine ⟨text, hread, ?_, ?_⟩
  · rw [htext]
    intro hmem
    obtain ⟨l, hl, hmem⟩ := List.mem_flatMap.1 hmem
    rcases List.mem_append.1 hmem with hmem | hmem
    · exact absurd (honeLine l hl _ hmem) (by decide)
    · exact absurd (List.mem_singleton.1 hmem) (by decide)
  · rw [htext]
    exact lines_flatMap fun l hl => (honeLine l hl).newline_not_mem

end Order

/-- A report of so many lines stands at a path, below its header. -/
def HasLines (d : Disk) (path : String) (rows : Nat) : Prop :=
  ∃ (text : String) (below : List (List Char)), d.read path = .ok (Utf8.encode text) ∧
    '\r' ∉ text.toList ∧ lines text.toList = Order.headerLine :: below ∧ below.length = rows

lemma HasLines.of_read {d e : Disk} {path : String} {rows : Nat} (h : HasLines d path rows)
    (hkept : ∀ content, d.read path = .ok content → e.read path = .ok content) :
    HasLines e path rows := by
  obtain ⟨text, below, hread, hlines⟩ := h
  exact ⟨text, below, hkept _ hread, hlines⟩

/-- A report that was made could be opened. -/
lemma Order.error_opened_of_make {order : Order} {d : Disk} {statistics : Statistics}
    (h : (order.make d).result = .ok statistics) : (order.opened d).error = none := by
  unfold Order.make at h
  rcases hopened : (order.opened d).error with _ | e
  · rfl
  · simp only [hopened] at h
    cases h

/-- A report that was made has a line for each row that was counted, behind its header. -/
lemma Order.length_reportLines (order : Order) {d : Disk} {statistics : Statistics}
    (h : (order.make d).result = .ok statistics) :
    (order.reportLines d).length = statistics.rows + 1 := by
  have hresult := order.result_make d (Order.error_opened_of_make h)
  rcases hfailure : (order.account d).failure with _ | failure <;> rw [hfailure] at hresult
  · obtain ⟨s, hs, hrows, -⟩ := hresult
    have hsame : s = statistics := Except.ok.inj (hs.symm.trans h)
    unfold Order.reportLines
    rw [List.length_cons, List.length_map, ← hsame, hrows]
  · cases hresult.symm.trans h

/-- **A report that was made has as many lines as were counted.** -/
theorem Order.hasLines_make {order : Order} {d : Disk} {statistics : Statistics}
    (h : (order.make d).result = .ok statistics) :
    HasLines (order.make d).disk order.reportFile statistics.rows := by
  obtain ⟨text, hread, hreturn, hlines⟩ := order.lines_make d (Order.error_opened_of_make h)
  have hlength : (headerLine :: (order.account d).rows.map Row.written).length =
      statistics.rows + 1 := order.length_reportLines h
  exact ⟨text, _, hread, hreturn, hlines, Nat.succ.inj hlength⟩

/-! ## Line breaks -/

/-- The line of a row has a single line break, at its end. -/
lemma newline_line {r : Row} (h : r.IsOneLine) :
    r.line.toList.count '\n' = 1 ∧ r.line.toList.getLast? = some '\n' ∧ '\r' ∉ r.line.toList := by
  have hwritten := h.written
  rw [Row.line_eq]
  refine ⟨?_, List.getLast?_concat, ?_⟩
  · rw [List.count_append, List.count_eq_zero_of_not_mem hwritten.newline_not_mem]
    simp
  · intro hmem
    rcases List.mem_append.1 hmem with hmem | hmem
    · exact absurd (hwritten _ hmem) (by decide)
    · exact absurd (List.mem_singleton.1 hmem) (by decide)

/-- **A row is one line.** Whatever the texts of a declaration are, the line of each of its rows has
a single line break, at its end, if there is none in its names. And a report that was made has a line
break for each row that was counted, behind that of its header. -/
theorem Order.newlines_make :
    (∀ d : Declaration, Text.IsOneLine d.name.toList →
      (∀ m ∈ d.members, m.kind = .method → Text.IsOneLine m.name.toList) →
        ∀ r ∈ d.rows, r.line.toList.count '\n' = 1 ∧ r.line.toList.getLast? = some '\n' ∧
          '\r' ∉ r.line.toList) ∧
      ∀ (order : Order) (d : Disk) (statistics : Statistics),
        (order.make d).result = .ok statistics →
          ∃ text : String, (order.make d).disk.read order.reportFile = .ok (Utf8.encode text) ∧
            text.toList.count '\n' = statistics.rows + 1 := by
  constructor
  · intro d hname hmembers r hr
    exact newline_line (d.isOneLine_rows hname hmembers r hr)
  · intro order d statistics h
    have hopened := Order.error_opened_of_make h
    obtain ⟨text, hread, htext⟩ := order.read_make_lines d hopened
    have hlines : ∀ l ∈ order.reportLines d, '\n' ∉ l := by
      intro l hl
      exact (order.isOneLine_reportLines d l hl).newline_not_mem
    refine ⟨text, hread, ?_⟩
    rw [htext, count_flatMap hlines, order.length_reportLines h]

/-- A bean whose method has texts over several lines. -/
def multiline : Declaration where
  kind := .classType
  name := "Ledger"
  tags := [⟨"Stateless", none⟩]
  members := [{
    name := "post"
    modifiers := ["public"]
    tags := [⟨"Description", some (.literal "\r\n\u2028  Posts an\n\t entry\r\r\n ")⟩,
      ⟨"RolesAllowed", some (.array [.literal "clerk\n", .literal "auditor"])⟩] }]

/-- The row of such a bean is one line, and a report without sources has the line break of its
header. -/
theorem newlines_multiline :
    (multiline.rows.map Row.line = ["Ledger,post,[Posts an entry],[auditor; clerk],\n"] ∧
      ∀ r ∈ multiline.rows, r.line.toList.count '\n' = 1 ∧ r.line.toList.getLast? = some '\n' ∧
        '\r' ∉ r.line.toList) ∧
      ∃ statistics, (Order.bare.make (Disk.empty "/")).result = .ok statistics ∧
        ∃ text : String,
          (Order.bare.make (Disk.empty "/")).disk.read "/audit.csv" = .ok (Utf8.encode text) ∧
          text.toList.count '\n' = statistics.rows + 1 := by
  obtain ⟨hrows, hreports⟩ := Order.newlines_make
  have hname : Text.IsOneLine multiline.name.toList := isOneLine_of_all (by decide +kernel)
  have hmembers : ∀ m ∈ multiline.members, m.kind = .method → Text.IsOneLine m.name.toList := by
    intro m hm _
    rw [List.mem_singleton.1 hm]
    exact isOneLine_of_all (by decide +kernel)
  obtain ⟨statistics, hmade, -⟩ := Order.bare.result_make (Disk.empty "/") Order.error_opened_bare
  exact ⟨⟨by decide +kernel, hrows multiline hname hmembers⟩, statistics, hmade,
    hreports Order.bare (Disk.empty "/") statistics hmade⟩

end Report

end RoleAudit
