import TokenSplit.Proofs.CommandLine.Failure
import TokenSplit.Proofs.CommandLine.Verbose
import TokenSplit.Proofs.Decimal.Grouped
import TokenSplit.Proofs.Yaml.Numeral

/-!
# Tables and documents

A split is shown as a table or, if that is asked for, as a document.  Both show the same numbers,
although the table groups their digits and the document may leave entries of the cache out.  What
the document leaves out is zero in the table.
-/

namespace TokenSplit

/-- The number that a document has under a name, which is zero where the name is left out. -/
def Usage.numberAt (fields : List (String × Int)) (key : String) : Int :=
  (fields.lookup key).getD 0

namespace Console.Table

/-- A row whose number leaves room for the names stands in the table uncut. -/
theorem exists_mem_render_of_length_le (t : Table)
    {row : List Char × List Char} (hrow : row ∈ t.rows)
    (hlength : row.2.length ≤ screenWidth - frameWidth - t.nameWidth) :
    ∃ gap, (∀ c ∈ gap, c ∈ [' ', '│']) ∧
      '│' :: ' ' :: row.1 ++ gap ++ row.2 ++ [' ', '│'] ∈ t.render := by
  have hwanted : row.2.length ≤ t.wantedWidth := by
    rw [wantedWidth, List.foldl_max]
    refine Nat.le_trans (List.le_max?_getD_of_mem ?_) (Nat.le_max_right _ _)
    exact List.mem_map_of_mem
      (List.mem_cons_of_mem _ (List.mem_map_of_mem hrow))
  have hwidth : row.2.length ≤ t.numberWidth := Nat.le_min.mpr ⟨hwanted, hlength⟩
  have hcut : cut t.numberWidth row.2 = row.2 :=
    if_neg (Nat.not_lt.mpr hwidth)
  refine ⟨List.replicate (t.nameWidth - row.1.length) ' ' ++ [' ', '│', ' '] ++
    List.replicate (t.numberWidth - row.2.length) ' ', ?_, ?_⟩
  · intro c hc
    simp only [List.mem_append, List.mem_replicate, List.mem_cons,
      List.not_mem_nil, or_false] at hc ⊢
    rcases hc with (⟨-, hblank⟩ | hblank | hedge | hblank) | ⟨-, hblank⟩
    · exact .inl hblank
    · exact .inl hblank
    · exact .inr hedge
    · exact .inl hblank
    · exact .inl hblank
  · refine List.mem_append_left _ (List.mem_append_right _ ?_)
    refine List.mem_map.mpr ⟨row, hrow, ?_⟩
    simp [Table.row, padLeft, hcut]

end Console.Table

namespace CommandLine

/-- The names of what a table shows of a usage: all of the input, and the output if it is given. -/
def rowKeys (output : Option Int) : List String :=
  [Usage.inputKey, Usage.creationKey, Usage.readKey] ++
    output.toList.map fun _ => Usage.outputKey

/-- The table of a piece, if it is one. -/
def Piece.table? : Piece → Option Console.Table
  | .table rows => some (tableOf rows)
  | _ => none

/-- The tables of a report. -/
def Report.tables (report : Report) : List Console.Table :=
  report.pieces.filterMap Piece.table?

/-- A table shows what a document shows, name by name, and in its last row the total.  The numbers
are grouped, and without the commas they are the numerals of the document; only entries of the
cache may be missing there.  The total is the sum of the three rows of the input.  Beside the names
the screen has room for 46 characters, and a number that is no longer than that is not cut. -/
structure ShowsDocument (table : Console.Table)
    (fields : List (String × Int)) (total : Nat) (output : Option Int) :
    Prop where
  names : table.rows.map (·.1) =
    (rowKeys output ++ ["total input"]).map String.toList
  grouped : ∀ row ∈ table.rows, Decimal.IsGrouped row.2
  numerals : table.rows.map (fun row => Decimal.ungrouped row.2) =
    (rowKeys output).map (fun key =>
      (Json.int (Usage.numberAt fields key)).print) ++ [Decimal.digits total]
  omitted : ∀ key ∈ rowKeys output, fields.lookup key = none →
    key ∈ [Usage.creationKey, Usage.readKey]
  sum : (table.rows.take 3).foldl
    (fun n row => n + Decimal.natural 10 (Decimal.ungrouped row.2)) 0 = total
  uncut : ∀ row ∈ table.rows, row.2.length ≤ 46 →
    ∃ gap, (∀ c ∈ gap, c ∈ [' ', '│']) ∧
      '│' :: ' ' :: row.1 ++ gap ++ row.2 ++ [' ', '│'] ∈ table.render

namespace Report

section

variable (s : Split) (output : Option Int) (omitEmpty : Value)

/-- The rows are the entries of the document, with zero for each that is left out, and the
total. -/
theorem rows_eq :
    rows s output =
      (rowKeys output).map (fun key =>
          (key, Usage.numberAt (s.fields output omitEmpty) key)) ++
        [("total input", (s.total : Int))] := by
  by_cases hshown : s.HasCache ∨ omitEmpty.isTrue = false
  · cases output <;>
      simp [rows, rowKeys, Usage.numberAt, Split.fields, hshown,
        List.lookup_cons, Usage.inputKey, Usage.creationKey, Usage.readKey,
        Usage.outputKey]
  -- what is left out is empty, so the rows show the zero that stands for it
  · have hempty : s.creation = 0 ∧ s.read = 0 := by
      have hcache : ¬s.HasCache := fun h => hshown (.inl h)
      simp only [Split.HasCache] at hcache
      omega
    cases output <;>
      simp [rows, rowKeys, Usage.numberAt, Split.fields, hshown, hempty,
        List.lookup_cons, Usage.inputKey, Usage.creationKey, Usage.readKey,
        Usage.outputKey]

/-- Only entries of the cache are left out of the document. -/
theorem mem_of_lookup_fields_eq_none {key : String}
    (hkey : key ∈ rowKeys output)
    (hlookup : (s.fields output omitEmpty).lookup key = none) :
    key ∈ [Usage.creationKey, Usage.readKey] := by
  simp only [rowKeys, List.mem_append, List.mem_cons, List.mem_map,
    Option.mem_toList, List.not_mem_nil, or_false] at hkey
  rcases hkey with (rfl | rfl | rfl) | ⟨n, rfl, rfl⟩
  · cases hlookup
  · exact .head _
  · exact .tail _ (.head _)
  -- an output that is given is an entry, whether those of the cache stand before it or not
  · by_cases hshown : s.HasCache ∨ omitEmpty.isTrue = false <;>
      simp [Split.fields, hshown, List.lookup_cons, Usage.inputKey,
        Usage.creationKey, Usage.readKey, Usage.outputKey] at hlookup

theorem nonneg_of_mem_rows {s : Split} {output : Option Int}
    (houtput : ∀ n ∈ output, 0 ≤ n) : ∀ row ∈ rows s output, 0 ≤ row.2 := by
  intro row hrow
  simp only [rows, List.mem_append, List.mem_cons, List.mem_map, Option.mem_toList,
    List.not_mem_nil, or_false] at hrow
  rcases hrow with ((rfl | rfl | rfl) | ⟨n, hn, rfl⟩) | rfl
  · exact Int.natCast_nonneg _
  · exact Int.natCast_nonneg _
  · exact Int.natCast_nonneg _
  · exact houtput n hn
  · exact Int.natCast_nonneg _

end

end Report

theorem nameWidth_tableOf_rows (s : Split) (output : Option Int) :
    (Piece.tableOf (Report.rows s output)).nameWidth = 27 := by
  cases output <;> rfl

theorem natural_ungrouped (n : Nat) :
    Decimal.natural 10 (Decimal.ungrouped (Decimal.grouped n)) = n := by
  rw [Decimal.ungrouped_grouped (Int.natCast_nonneg n), Int.natAbs_natCast,
    Yaml.natural_digits]

theorem showsDocument_tableOf (s : Split) {output : Option Int}
    (houtput : ∀ n ∈ output, 0 ≤ n) (omitEmpty : Value) :
    ShowsDocument (Piece.tableOf (Report.rows s output))
      (s.fields output omitEmpty) s.total output := by
  have hrows : (Piece.tableOf (Report.rows s output)).rows =
      (Report.rows s output).map fun row =>
        (row.1.toList, Decimal.grouped row.2) := rfl
  have hnonneg := Report.nonneg_of_mem_rows (s := s) houtput
  have hnumerals : (Piece.tableOf (Report.rows s output)).rows.map
        (fun row => Decimal.ungrouped row.2) =
      (Report.rows s output).map fun row => (Json.int row.2).print := by
    rw [hrows, List.map_map]
    apply List.map_congr_left
    intro row hrow
    have hprint : (Json.int row.2).print = Decimal.digits row.2.natAbs :=
      Decimal.signed_of_nonneg (hnonneg row hrow) _
    rw [hprint]
    exact Decimal.ungrouped_grouped (hnonneg row hrow)
  refine ⟨?_, ?_, ?_, ?_, ?_, ?_⟩
  · rw [hrows, Report.rows_eq s output omitEmpty]
    simp
  · intro row hrow
    rw [hrows] at hrow
    obtain ⟨named, hnamed, rfl⟩ := List.mem_map.mp hrow
    exact Decimal.isGrouped_grouped (hnonneg named hnamed)
  · rw [hnumerals, Report.rows_eq s output omitEmpty, List.map_append, List.map_map]
    rfl
  · intro key hkey
    exact Report.mem_of_lookup_fields_eq_none s output omitEmpty hkey
  · have hinput : (Piece.tableOf (Report.rows s output)).rows.take 3 =
        [(Usage.inputKey.toList, Decimal.grouped s.input),
          (Usage.creationKey.toList, Decimal.grouped s.creation),
          (Usage.readKey.toList, Decimal.grouped s.read)] := rfl
    rw [hinput]
    simp only [List.foldl_cons, List.foldl_nil, natural_ungrouped, Split.total,
      Nat.zero_add]
  · intro row hrow hlength
    apply Console.Table.exists_mem_render_of_length_le _ hrow
    rw [nameWidth_tableOf_rows]
    exact hlength

namespace Report

/-- Records are no tables. -/
theorem tables_append {records : List Piece} (hrecords : AreRecords records)
    (rest : List Piece) :
    (Report.mk (records ++ rest) false).tables =
      (Report.mk rest false).tables := by
  have hnone : records.filterMap Piece.table? = [] := by
    rw [List.filterMap_eq_nil_iff]
    intro piece hpiece
    obtain ⟨event, timed, rfl⟩ := hrecords piece hpiece
    rfl
  rw [tables, List.filterMap_append, hnone]
  rfl

theorem tables_splitPieces (s : Split) (output : Option Int) :
    (Report.mk (splitPieces s output) false).tables =
      [Piece.tableOf (rows s output)] := by
  by_cases hcache : s.HasCache <;>
    simp [tables, splitPieces, hcache, Piece.table?]

theorem exists_lines_splitPieces (now : Moment) (s : Split)
    (output : Option Int) :
    ∃ note, (piecesLines now (splitPieces s output)).1 =
      (Piece.tableOf (rows s output)).render ++ note :=
  ⟨_, rfl⟩

end Report

/-- A count and an output are shown as a table and as a document with the same exit code, which is
zero unless the count cannot be recorded.  Behind the same records the one run writes a single
table and the other a single line, and the table shows the document that is read from the line. -/
theorem table_shows_document (around : Surroundings) (before : Recording)
    {words jsonWords : List String} {request : SplitRequest} {config : Config}
    (hwords : Invocation.ofWords words = .ok (.distribute request))
    (hjsonWords : Invocation.ofWords jsonWords =
      .ok (.distribute { request with json := true }))
    (hjson : request.json = false)
    (hconfig : Report.configAt around.host request.config = .ok config)
    (htotal : 0 ≤ request.total) (houtput : ∀ n ∈ request.output, 0 ≤ n) :
    ∃ shown printed : Transcript,
      (runOnce around before words).1 = .ok shown ∧
      (runOnce around before jsonWords).1 = .ok printed ∧
      shown.exitCode = printed.exitCode ∧
      (shown.exitCode = 0 ↔
        request.recording before = .off ∨
          (request.total < config.ratio.threshold →
            Decimal.Writable config.ratio.threshold)) ∧
      (shown.exitCode = 0 →
        ∃ table fields line front note,
          (Report.distribute around.host before request).1.tables = [table] ∧
          shown.lines = front ++ table.render ++ note ∧
          printed.lines = front ++ [line] ∧
          (Json.parse? line).bind Usage.ofDocument? =
            some (.ofIntegers fields) ∧
          config.reported request.total request.output =
            .ok (.ofIntegers fields) ∧
          ShowsDocument table fields request.total.toNat request.output) := by
  have hworded := isSome_text?_event_of_ofWords hwords htotal config.ratio
  have hconfigJson : Report.configAt around.host
      ({ request with json := true } : SplitRequest).config = .ok config :=
    hconfig
  refine ⟨_, _, runOnce_distribute hwords around before,
    runOnce_distribute hjsonWords around before, ?_⟩
  rw [← hworded]
  by_cases hrecorded : request.recording before = .off ∨
      (config.ratio.event request.total.toNat).text?.isSome
  · obtain ⟨records, after, hrecord⟩ := Recording.exists_record hrecorded
    have hrecords := Recording.areRecords_record hrecord
    have hshown := Report.distribute_of_recorded hconfig htotal houtput hrecord
    have hprinted :=
      Report.distribute_of_recorded hconfigJson htotal houtput hrecord
    rw [hshown, hprinted, transcript_usagePieces _ hrecords,
      transcript_usagePieces _ hrecords]
    refine ⟨rfl, iff_of_true rfl hrecorded, fun _ => ?_⟩
    have hpieces :=
      Report.usagePieces_eq_splitPieces hjson config.ratio
    have hshows := showsDocument_tableOf
      (config.ratio.split request.total.toNat) houtput config.omitEmpty
    rw [config.ratio.total_split] at hshows
    obtain ⟨note, hnote⟩ := Report.exists_lines_splitPieces around.now
      (config.ratio.split request.total.toNat) request.output
    refine ⟨_, _, _, _, note, ?_, ?_, rfl, ?_, ?_, hshows⟩
    · rw [hpieces, Report.tables_append hrecords, Report.tables_splitPieces]
    · rw [hpieces, hnote, List.append_assoc]
    · have hgap : [].all Json.isGap := rfl
      simpa using ofDocument?_line _ hgap
    · rw [Config.reported, config.ratio.report_of_tokens
        (Value.tokens_int_of_nonneg htotal), Split.usage_of_nonneg _ houtput]
  -- both runs end before there is anything to show
  · obtain ⟨hon, hnot⟩ := not_or.mp hrecorded
    have hprinted : (Report.distribute around.host before
        { request with json := true }).1 =
          Report.failure [] .numeralTooLong :=
      Report.distribute_of_not_worded hon hconfigJson htotal hnot
    rw [Report.distribute_of_not_worded hon hconfig htotal hnot, hprinted]
    have hexit := Report.transcript_failure around.now [] .numeralTooLong
    have hfailed : ((Report.failure [] .numeralTooLong).transcript
        around.now).exitCode ≠ 0 := by
      rw [hexit]
      decide
    exact ⟨rfl, iff_of_false hfailed hrecorded, fun hzero => absurd hzero hfailed⟩

/-- What the document of a count below the threshold leaves out is zero in the table, and an output
of zero is in both. -/
theorem table_shows_document_ninety_nine :
    ∃ table fields,
      (Report.distribute Disk.empty .off
        { total := 99, output := some 0 }).1.tables = [table] ∧
      ShowsDocument table fields 99 (some 0) ∧
      fields.lookup Usage.creationKey = none ∧
      table.rows.map (·.2) = ["99", "0", "0", "0", "99"].map String.toList := by
  have hwords : Invocation.ofWords
      ["distribute", "99", "--output-tokens", "0"] =
        .ok (.distribute { total := 99, output := some 0 }) := rfl
  have hjsonWords : Invocation.ofWords
      ["distribute", "99", "--output-tokens", "0", "--json"] =
        .ok (.distribute { total := 99, output := some 0, json := true }) := rfl
  have hconfig : Report.configAt Disk.empty none = .ok Config.standard := rfl
  obtain ⟨shown, printed, -, -, -, hexit, hagree⟩ := table_shows_document
    ⟨Disk.empty, ⟨⟨2024, 1, 2⟩, 3, 4, 5, 0, none⟩⟩ .off hwords hjsonWords rfl
    hconfig (by decide) (by decide)
  obtain ⟨table, fields, line, front, note, htables, -, -, -, hreported,
    hshows⟩ := hagree (hexit.mpr (.inl rfl))
  have hvalue : Config.standard.reported 99 (some 0) =
      .ok (.ofIntegers [(Usage.inputKey, 99), (Usage.outputKey, 0)]) := rfl
  have hfields : fields = [(Usage.inputKey, 99), (Usage.outputKey, 0)] := by
    have husage := Except.ok.inj (hreported.symm.trans hvalue)
    rw [← Usage.integers_ofIntegers fields, husage, Usage.integers_ofIntegers]
  have htable : (Report.distribute Disk.empty .off
      { total := 99, output := some 0 }).1.tables =
        [Piece.tableOf (Report.rows ⟨99, 0, 0⟩ (some 0))] := rfl
  refine ⟨table, fields, htables, hshows, ?_, ?_⟩
  · rw [hfields]
    rfl
  · rw [(List.cons.inj (htables.symm.trans htable)).1]
    rfl

end CommandLine

end TokenSplit
