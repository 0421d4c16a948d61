import JarLens.Source.Signature

/-!
# Reading entries

A resource is shown as its own text. For a compiled class three tiers are tried in order, and the
first that gives a text wins:

1. the source text attached in the archive `…-sources.jar` next to the class's archive,
2. the text that the decompiler writes,
3. the signatures of the public members.
-/

namespace JarLens.Source

/-- Where a text comes from. -/
inductive Provenance where
  | attachedSource
  | decompiled
  | rawResource
  | signatureSummary
  deriving DecidableEq, Repr

/-- The provenance in reports. -/
def Provenance.label : Provenance → Text
  | attachedSource => "attached-source".toList
  | decompiled => "decompiled".toList
  | rawResource => "raw-resource".toList
  | signatureSummary => "signature-summary".toList

/-- The text shown for an entry. -/
structure Reading where
  content : Text
  /-- The path of the entry that the text is of. -/
  entryPath : Text
  provenance : Provenance
  /-- The archive with the source text, if there is one. -/
  sourceArchive : Option Text
  deriving DecidableEq

/-- A compiled class to be shown. -/
structure ClassRequest where
  archive : Text
  entry : Text
  className : Text
  deriving DecidableEq

/-- The request for a class entry of an archive. -/
def ClassRequest.ofEntry (archive entry : Text) : ClassRequest :=
  { archive, entry, className := Entry.className entry }

/-- The text of an entry in the archive with source texts; an archive that cannot be found or opened
has none. -/
def attachedText (sources entry : Text) : Action (Option Text) :=
  tryCatch (Action.look (·.readText sources entry)) fun failure =>
    match failure with
    | .notFound _ => do
      Action.log .info "jar_viewer.source" "source.attached_unreadable"
        [("source_archive", .text sources)]
      pure none
    | _ => throw failure

/-- The reading of an attached source text. -/
def attachedReading (sibling : PathName) (entry text : Text) : Reading :=
  { content := "// Source: Attached (".toList ++ sibling.name?.getD [] ++ ")\n".toList ++ text
    entryPath := Entry.javaEntry entry
    provenance := .attachedSource
    sourceArchive := some sibling.toText }

/-- The first tier: the source text attached next to the archive. -/
def attachedSource (r : ClassRequest) : Action (Option Reading) := do
  match (PathName.ofText r.archive).sourceSibling? with
  | none => pure none
  | some sibling =>
    let found ← Action.look fun m => (m.isFile sibling.toText).mapError Failure.badPath
    if !found then pure none
    else
      let text ← attachedText sibling.toText (Entry.javaEntry r.entry)
      pure (text.map (attachedReading sibling r.entry))

/-- The reading of a decompiled text. -/
def decompiledReading (entry text : Text) : Reading :=
  { content := "// Decompiled via CFR\n".toList ++ Text.shown text
    entryPath := Entry.javaEntry entry
    provenance := .decompiled
    sourceArchive := none }

/-- The reading of signatures. -/
def signatureReading (entry text : Text) : Reading :=
  { content := "// javap signature fallback\n".toList ++ Text.shown text
    entryPath := entry
    provenance := .signatureSummary
    sourceArchive := none }

/-- Logs which tier gave the text. -/
def resolved (r : ClassRequest) (reading : Reading) : Action Reading := do
  Action.log .info "jar_viewer.source" "source.resolved"
    [("entry", .text r.entry), ("provenance", .text reading.provenance.label)]
  pure reading

/-- The last tier, after the decompiler gave no text. -/
def readSignature (r : ClassRequest) (decompiled : Decompiled) : Action Reading := do
  match ← signature r.archive r.className with
  | some text => resolved r (signatureReading r.entry text)
  | none =>
    Action.log .warning "jar_viewer.source" "source.exhausted"
      [("entry", .text r.entry),
        ("tiers", .texts [Provenance.attachedSource.label, Provenance.decompiled.label,
          Provenance.signatureSummary.label])]
    throw (.noSource r.entry decompiled.exitCode decompiled.stderr)

/-- The tiers after the first. -/
def readDecompiled (r : ClassRequest) : Action Reading := do
  let decompiled ← decompile r.archive r.entry r.className
  match decompiled.text with
  | some text => resolved r (decompiledReading r.entry text)
  | none => readSignature r decompiled

/-- The three tiers in order. -/
def readClass (r : ClassRequest) : Action Reading := do
  match ← attachedSource r with
  | some reading => resolved r reading
  | none => readDecompiled r

/-- The reading of an entry's own text. -/
def resourceReading (entry text : Text) : Reading :=
  { content := text, entryPath := entry, provenance := .rawResource, sourceArchive := none }

/-- The own text of an entry. -/
def readResource (archive entry : Text) : Action Reading := do
  match ← Action.look (·.readText archive entry) with
  | none => throw (.notFound (.entry entry archive))
  | some text => pure (resourceReading entry text)

/-- The text for an entry, in its one spelling, of the archive at a place. -/
def readAt (archive entry : Text) : Action Reading := do
  if entry = [] then throw (.notFound .entryRequired)
  else if !Entry.isClass entry then readResource archive entry
  else if !(← Action.look (·.hasEntry archive entry)) then
    throw (.notFound (.entry entry archive))
  else readClass (.ofEntry archive entry)

/-- The best text there is for an entry of the archive at a path. -/
def readEntry (path entry : Text) : Action Reading := do
  let place ← Action.look (·.archivePlace path)
  readAt place.toText (Entry.normalize entry)

end JarLens.Source
