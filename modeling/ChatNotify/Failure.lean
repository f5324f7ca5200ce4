namespace ChatNotify

/-- Why a store, or another collaborator, did not answer. -/
inductive StoreError where
  | persistence (message : String)
  | notFound
  | invalidInput (message : String)
  | timeout
  deriving Repr, DecidableEq

/-- Why the other nodes could not be told. -/
inductive ClusterError where
  | unavailable (message : String)
  deriving Repr, DecidableEq

/-- Why a service failed. -/
inductive ServiceError where
  | store (error : StoreError)
  | cluster (error : ClusterError)
  | validation (message : String)
  deriving Repr, DecidableEq

/-- The report of the error. -/
def StoreError.message : StoreError → String
  | .persistence message => "persistence error: " ++ message
  | .notFound => "resource not found"
  | .invalidInput message => "invalid input: " ++ message
  | .timeout => "store timeout"

/-- The report of the error. -/
def ClusterError.message : ClusterError → String
  | .unavailable message => "cluster transport unavailable: " ++ message

namespace ServiceError

/-- The report of the error. An error of a collaborator is reported in its own words. -/
def message : ServiceError → String
  | .store error => error.message
  | .cluster error => error.message
  | .validation message => "validation failed: " ++ message

/-- The reports of the error and of what caused it. As errors of collaborators are passed on in their
own words, there is only one. -/
def messages (error : ServiceError) : List String :=
  [error.message]

end ServiceError

end ChatNotify
