import ArchModel.Text.Char

/-!
# Phrases for technologies

Two containers that are linked by a technology are described by a phrase for it.
-/

namespace ArchModel

open Text

/-- The phrases for the technologies that are known. -/
def technologyPhrases : List (String × String) := [
  ("http", "makes HTTP calls to"),
  ("https", "makes HTTPS calls to"),
  ("rest", "makes REST calls to"),
  ("grpc", "makes gRPC calls to"),
  ("graphql", "makes GraphQL queries to"),
  ("soap", "makes SOAP calls to"),
  ("jdbc", "connects via JDBC to"),
  ("jpa", "persists data via JPA in"),
  ("sql", "queries SQL database in"),
  ("websocket", "connects via WebSocket to"),
  ("kafka", "publishes/subscribes messages via Kafka to"),
  ("rabbitmq", "exchanges messages via RabbitMQ with"),
  ("redis", "caches data in"),
  ("mongodb", "stores documents in"),
  ("elasticsearch", "indexes/searches data in"),
  ("aws-sdk", "uses AWS services from"),
  ("azure-sdk", "uses Azure services from"),
  ("gcp-sdk", "uses Google Cloud services from"),
  ("kubernetes", "deploys to"),
  ("docker", "runs in container on")]

/-- What a container does to another one by a technology, whatever the case of its letters. -/
def describeTechnology (technology : Option String) : String :=
  match technology with
  | none | some "" => "is connected with"
  | some t =>
    match technologyPhrases.find? fun (word, _) => readsAs word t with
    | some (_, phrase) => phrase
    | none => "communicates using " ++ t ++ " with"

end ArchModel
