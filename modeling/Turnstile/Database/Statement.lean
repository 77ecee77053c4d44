import Turnstile.Account.Json
import Turnstile.Database.Value

/-!
The statements that the store of accounts sends to its database, and their parameters. Whatever a
caller has given is a parameter and no part of the text. Rows that are marked as deleted are left
alone by every statement.
-/

namespace Turnstile.Database

open Turnstile.Time

inductive Lookup where
  | id (id : Account.Id)
  | email (email : String)
  | phoneNumber (phoneNumber : String)
  deriving DecidableEq

namespace Lookup

def column : Lookup → String
  | id _ => "id"
  | email _ => "email"
  | phoneNumber _ => "phone_number"

def value : Lookup → Value
  | id wanted => .uuid wanted
  | email wanted => .text wanted
  | phoneNumber wanted => .text wanted

def condition (lookup : Lookup) : String :=
  lookup.column ++ " = $1 AND deleted_at IS NULL"

end Lookup

inductive Statement where
  | createTable
  | selectCredentials (email : String)
  | selectAccount (lookup : Lookup)
  | selectExists (lookup : Lookup)
  | insert (id : Account.Id) (account : NewAccount)
  | update (account : Account) (updatedAt : Instant)
  deriving DecidableEq

namespace Statement

def tableText : String :=
  "CREATE TABLE IF NOT EXISTS accounts ( id UUID PRIMARY KEY, name TEXT NOT NULL, " ++
  "email TEXT NOT NULL, phone_number TEXT NOT NULL, password_hash TEXT NOT NULL, " ++
  "status INTEGER NOT NULL DEFAULT 0, meta JSONB NOT NULL DEFAULT '\x7b\x7d'::jsonb, " ++
  "created_at TIMESTAMPTZ NOT NULL, updated_at TIMESTAMPTZ NOT NULL, deleted_at TIMESTAMPTZ, " ++
  "CONSTRAINT accounts_email_key UNIQUE (email), " ++
  "CONSTRAINT accounts_phone_number_key UNIQUE (phone_number) );"

def accountColumns : String :=
  "id, name, email, phone_number, status, meta, created_at, updated_at"

def updateText : String :=
  "UPDATE accounts SET name = $2, email = $3, phone_number = $4, status = $5, meta = $6, " ++
  "updated_at = $7 WHERE id = $1 AND deleted_at IS NULL"

def sql : Statement → String
  | createTable => tableText
  | selectCredentials email =>
      "SELECT id, email, password_hash FROM accounts WHERE " ++ (Lookup.email email).condition
  | selectAccount lookup =>
      "SELECT " ++ accountColumns ++ " FROM accounts WHERE " ++ lookup.condition
  | selectExists lookup =>
      "SELECT EXISTS (SELECT 1 FROM accounts WHERE " ++ lookup.condition ++ ")"
  | insert _ _ =>
      "INSERT INTO accounts ( id, name, email, phone_number, password_hash, status, meta, " ++
      "created_at, updated_at ) VALUES ($1, $2, $3, $4, $5, $6, $7, $8, $9)"
  | update _ _ => updateText

def parameters : Statement → List Value
  | createTable => []
  | selectCredentials email => [(Lookup.email email).value]
  | selectAccount lookup => [lookup.value]
  | selectExists lookup => [lookup.value]
  | insert id account =>
      [.uuid id, .text account.name, .text account.email, .text account.phoneNumber,
       .text account.passwordHash, .integer account.status.number,
       .document account.details.toJson, .ofInstant account.createdAt,
       .ofInstant account.updatedAt]
  | update account updatedAt =>
      [.uuid account.id, .text account.name, .text account.email, .text account.phoneNumber,
       .integer account.status.number, .document account.details.toJson, .ofInstant updatedAt]

end Statement

end Turnstile.Database
