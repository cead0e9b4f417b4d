import Rsduck.Catalog.Mutation.UserRole
import Rsduck.Catalog.TypeMapping

/-!
The catalog of a fresh database.
-/

namespace Rsduck.Catalog

open Lib

def catalogVersion : ℤ := 2
def snapshotFormatVersion : ℤ := 3

def roleAdminId : ℤ := 20
def roleOperatorId : ℤ := 21
def roleDdlId : ℤ := 22
def roleWriterId : ℤ := 23
def roleReaderId : ℤ := 24

def firstUserOid : ℤ := 10000

def bootstrapSchemas : List SchemaRow :=
  [⟨informationSchemaNs, "information_schema", adminUserId, ""⟩,
    ⟨rsduckCatalogNs, "rsduck_catalog", adminUserId, ""⟩,
    ⟨rsduckInternalNs, "rsduck_internal", adminUserId, ""⟩, ⟨mainNs, "main", adminUserId, ""⟩]

def bootstrapType (oid : ℤ) (typname : String) (typlen : ℤ) (typbyval : Bool)
    (typcategory rsduckPhysicalType : String) : TypeRow :=
  ⟨oid, typname, rsduckCatalogNs, adminUserId, typlen, typbyval, "b", typcategory, true, 0, 0, 0,
    rsduckPhysicalType⟩

def bootstrapTypes : List TypeRow :=
  [bootstrapType typeBool "boolean" 1 true "B" "BOOLEAN",
    bootstrapType typeInt8 "bigint" 8 true "N" "BIGINT",
    bootstrapType typeInt2 "smallint" 2 true "N" "SMALLINT",
    bootstrapType typeInt4 "integer" 4 true "N" "INTEGER",
    bootstrapType typeText "text" (-1) false "S" "VARCHAR",
    bootstrapType typeFloat4 "real" 4 true "N" "REAL",
    bootstrapType typeFloat8 "double" 8 true "N" "DOUBLE",
    bootstrapType typeVarchar "varchar" (-1) false "S" "VARCHAR",
    bootstrapType typeDate "date" 4 true "D" "DATE",
    bootstrapType typeTime "time" 8 true "D" "TIME",
    bootstrapType typeTimestamp "timestamp" 8 true "D" "TIMESTAMP",
    bootstrapType typeNumeric "numeric" (-1) false "N" "DECIMAL"]

def bootstrapRoles : List RoleRow :=
  [⟨roleAdminId, "admin", "full catalog and system administration", true⟩,
    ⟨roleOperatorId, "operator", "snapshot and catalog operations", true⟩,
    ⟨roleDdlId, "ddl", "schema and relation ddl operations", true⟩,
    ⟨roleWriterId, "writer", "relation data writes", true⟩,
    ⟨roleReaderId, "reader", "relation reads", true⟩]

def bootstrapUser (adminPasswordHash adminMysqlAuthString : String) : UserRow :=
  { userId := adminUserId, username := "admin", passwordHash := adminPasswordHash, passwordAlgo
    mysqlAuthPlugin := mysqlCachingSha2Password, mysqlAuthString := adminMysqlAuthString
    status := "active", isBuiltin := true }

/-- The roles' rights on the system. -/
def bootstrapActions : List (ℤ × PrivilegeAction) :=
  [(roleAdminId, .manageSnapshot), (roleAdminId, .manageCatalog), (roleAdminId, .manageUser),
    (roleOperatorId, .manageSnapshot), (roleOperatorId, .manageCatalog)]

/-- Their rows, with the first oids of the allocator. -/
def bootstrapPrivileges : List PrivilegeRow :=
  bootstrapActions.mapIdx fun i p =>
    ⟨firstUserOid + i, .role, p.1, .system, 0, p.2, adminUserId⟩

/-- The rows that are written to empty tables. -/
def bootstrapRows (adminPasswordHash adminMysqlAuthString : String) : Catalog :=
  { rsOidAlloc := ⟨[⟨1, firstUserOid + bootstrapPrivileges.length⟩], List.pairwise_singleton _ _⟩
    rsCatalogVersion :=
      ⟨[⟨1, catalogVersion, snapshotFormatVersion, 0, "", "ready"⟩], List.pairwise_singleton _ _⟩
    rsSchema := ⟨bootstrapSchemas, by decide⟩
    rsType := ⟨bootstrapTypes, by decide⟩
    rsRole := ⟨bootstrapRoles, by decide⟩
    rsUser := ⟨[bootstrapUser adminPasswordHash adminMysqlAuthString], List.pairwise_singleton _ _⟩
    rsUserRole := ⟨[⟨adminUserId, roleAdminId, adminUserId⟩], List.pairwise_singleton _ _⟩
    rsPrivilege := ⟨bootstrapPrivileges, by decide⟩ }

/-- The catalog of a fresh database, with what is stored of the password of `admin`. -/
def insertBootstrapRows (adminPasswordHash adminMysqlAuthString : String) : Catalog :=
  let c := bootstrapRows adminPasswordHash adminMysqlAuthString
  setCatalogChecksum (calculateCatalogChecksum c) c

end Rsduck.Catalog
