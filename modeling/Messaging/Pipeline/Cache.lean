import Messaging.Pipeline.Chain

/-!
# Built pipelines by name

- `PipelineCache` keeps built pipelines under their name and the kind of their contexts.
-/

namespace Messaging

variable {S : Signature} {K : Type} {C : K → Type}

/-- A built pipeline with the kind of its contexts. -/
structure BuiltPipeline (S : Signature) (C : K → Type) where
  /-- The kind of the contexts. -/
  kind : K
  /-- The pipeline. -/
  pipeline : Pipeline S (C kind)

/-- Built pipelines, of which a name and a kind have one at most. -/
structure PipelineCache (S : Signature) (C : K → Type) where
  /-- The pipelines. -/
  entries : List (BuiltPipeline S C) := []

namespace PipelineCache

variable [DecidableEq K]

/-- Keeps a pipeline, in the place of one with its name and kind. -/
def insert (cache : PipelineCache S C) (kind : K) (pipeline : Pipeline S (C kind)) :
    PipelineCache S C :=
  ⟨cache.entries.filter (fun entry => ¬ (entry.kind = kind ∧ entry.pipeline.name = pipeline.name))
    ++ [⟨kind, pipeline⟩]⟩

/-- The pipeline of a kind in a list of entries. -/
def find? (kind : K) (name : String) : List (BuiltPipeline S C) → Option (Pipeline S (C kind))
  | [] => none
  | entry :: rest =>
    if h : entry.kind = kind then
      -- the kinds agree, so the pipeline has contexts of the kind asked for
      if entry.pipeline.name = name then some (h ▸ entry.pipeline) else find? kind name rest
    else find? kind name rest

/-- The pipeline under a name, for contexts of a kind. -/
def get? (cache : PipelineCache S C) (kind : K) (name : String) : Option (Pipeline S (C kind)) :=
  find? kind name cache.entries

/-- How many pipelines are kept. -/
def size (cache : PipelineCache S C) : Nat := cache.entries.length

end PipelineCache

end Messaging
