/-! # The keyword catalogue

Every reserved word of the language is one constructor, spelled as its name. The catalogue `all`
is in declaration order, which is also the order of the type; the marker `UNDEFINED`, for a word
outside the catalogue, comes after all of them and is no member. -/

namespace SqlText

/-- A reserved word, or the marker. -/
inductive Keyword where
  | ABORT | ABS | ABSOLUTE | ACTION | ADD | ADMIN | AGAINST | ALL | ALLOCATE | ALTER | ALWAYS
  | ANALYZE | AND | ANTI | ANY | APPLY | ARCHIVE | ARE | ARRAY | ARRAY_AGG
  | ARRAY_MAX_CARDINALITY | AS | ASC | ASENSITIVE | ASSERT | ASYMMETRIC | AT | ATOMIC
  | AUTHORIZATION | AUTO_INCREMENT | AUTOINCREMENT | AVG | AVRO | BACKWARD | BEGIN | BEGIN_FRAME
  | BEGIN_PARTITION | BETWEEN | BIGINT | BIGNUMERIC | BINARY | BLOB | BOOLEAN | BOTH | BTREE | BY
  | BYPASSRLS | BYTEA | CACHE | CALL | CALLED | CARDINALITY | CASCADE | CASCADED | CASE | CAST
  | CEIL | CEILING | CENTURY | CHAIN | CHANGE | CHAR | CHAR_LENGTH | CHARACTER | CHARACTER_LENGTH
  | CHARACTERS | CHARSET | CHECK | CLOB | CLONE | CLOSE | CLUSTER | COALESCE | COLLATE
  | COLLATION | COLLECT | COLUMN | COLUMNS | COMMENT | COMMIT | COMMITTED | COMPRESSION | COMPUTE
  | CONDITION | CONFLICT | CONNECT | CONNECTION | CONSTRAINT | CONTAINS | CONVERT | COPY
  | COPY_OPTIONS | CORR | CORRESPONDING | COUNT | COVAR_POP | COVAR_SAMP | CREATE | CREATEDB
  | CREATEROLE | CREDENTIALS | CROSS | CSV | CUBE | CUME_DIST | CURRENT | CURRENT_CATALOG
  | CURRENT_DATE | CURRENT_DEFAULT_TRANSFORM_GROUP | CURRENT_PATH | CURRENT_ROLE | CURRENT_ROW
  | CURRENT_SCHEMA | CURRENT_TIME | CURRENT_TIMESTAMP | CURRENT_TRANSFORM_GROUP_FOR_TYPE
  | CURRENT_USER | CURSOR | CYCLE | DATA | DATABASE | DATE | DATETIME | DAY | DEALLOCATE | DEC
  | DECADE | DECIMAL | DECLARE | DEFAULT | DELETE | DELIMITED | DELIMITER | DENSE_RANK | DEREF
  | DESC | DESCRIBE | DETERMINISTIC | DIRECTORY | DISCARD | DISCONNECT | DISTINCT | DISTRIBUTE
  | DIV | DO | DOUBLE | DOW | DOY | DROP | DUPLICATE | DYNAMIC | EACH | ELEMENT | ELSE | ENCODING
  | ENCRYPTION | END | END_FRAME | END_PARTITION | END_EXEC | ENDPOINT | ENGINE | ENUM | EPOCH
  | EQUALS | ERROR | ESCAPE | EVENT | EVERY | EXCEPT | EXCLUDE | EXEC | EXECUTE | EXISTS | EXP
  | EXPANSION | EXPLAIN | EXTENDED | EXTERNAL | EXTRACT | FAIL | FALSE | FETCH | FIELDS | FILE
  | FILES | FILE_FORMAT | FILTER | FIRST | FIRST_VALUE | FLOAT | FLOOR | FOLLOWING | FOR | FORCE
  | FORCE_NOT_NULL | FORCE_NULL | FORCE_QUOTE | FOREIGN | FORMAT | FORWARD | FRAME_ROW | FREE
  | FREEZE | FROM | FULL | FULLTEXT | FUNCTION | FUNCTIONS | FUSION | GENERATED | GET | GLOBAL
  | GRANT | GRANTED | GRAPHVIZ | GROUP | GROUPING | GROUPS | HASH | HAVING | HEADER | HIVEVAR
  | HOLD | HOUR | IDENTITY | IF | IGNORE | ILIKE | IMMUTABLE | IN | INCREMENT | INDEX | INDICATOR
  | INHERIT | INNER | INOUT | INPUTFORMAT | INSENSITIVE | INSERT | INT | INTEGER | INTERSECT
  | INTERSECTION | INTERVAL | INTO | IS | ISODOW | ISOLATION | ISOYEAR | JAR | JOIN | JSON
  | JSONFILE | JULIAN | KEY | KILL | LAG | LANGUAGE | LARGE | LAST | LAST_VALUE | LATERAL | LEAD
  | LEADING | LEFT | LEVEL | LIKE | LIKE_REGEX | LIMIT | LISTAGG | LN | LOCAL | LOCALTIME
  | LOCALTIMESTAMP | LOCATION | LOCKED | LOGIN | LOWER | MACRO | MANAGEDLOCATION | MATCH
  | MATCHED | MATERIALIZED | MAX | MAXVALUE | MEDIUMINT | MEMBER | MERGE | METADATA | METHOD
  | MICROSECOND | MICROSECONDS | MILLENIUM | MILLENNIUM | MILLISECOND | MILLISECONDS | MIN
  | MINUTE | MINVALUE | MOD | MODE | MODIFIES | MODULE | MONTH | MSCK | MULTISET | MUTATION
  | NANOSECOND | NANOSECONDS | NATIONAL | NATURAL | NCHAR | NCLOB | NEW | NEXT | NO | NOBYPASSRLS
  | NOCREATEDB | NOCREATEROLE | NOINHERIT | NOLOGIN | NONE | NOREPLICATION | NORMALIZE | NOSCAN
  | NOSUPERUSER | NOT | NOTHING | NOWAIT | NTH_VALUE | NTILE | NULL | NULLIF | NULLS | NUMERIC
  | NVARCHAR | OBJECT | OCCURRENCES_REGEX | OCTET_LENGTH | OCTETS | OF | OFFSET | OLD | ON | ONLY
  | OPEN | OPERATOR | OPTION | OPTIONS | OR | ORC | ORDER | OUT | OUTER | OUTPUTFORMAT | OVER
  | OVERFLOW | OVERLAPS | OVERLAY | OVERWRITE | OWNED | PARAMETER | PARQUET | PARTITION
  | PARTITIONED | PARTITIONS | PASSWORD | PATTERN | PERCENT | PERCENT_RANK | PERCENTILE_CONT
  | PERCENTILE_DISC | PERIOD | PIVOT | PLACING | PLANS | PORTION | POSITION | POSITION_REGEX
  | POWER | PRECEDES | PRECEDING | PRECISION | PREPARE | PRESERVE | PRIMARY | PRIOR | PRIVILEGES
  | PROCEDURE | PROGRAM | PURGE | QUALIFY | QUARTER | QUERY | QUOTE | RANGE | RANK | RCFILE
  | READ | READS | REAL | RECURSIVE | REF | REFERENCES | REFERENCING | REGCLASS | REGR_AVGX
  | REGR_AVGY | REGR_COUNT | REGR_INTERCEPT | REGR_R2 | REGR_SLOPE | REGR_SXX | REGR_SXY
  | REGR_SYY | RELATIVE | RELEASE | RENAME | REPAIR | REPEATABLE | REPLACE | REPLICATION
  | RESTRICT | RESULT | RETURN | RETURNING | RETURNS | REVOKE | RIGHT | ROLE | ROLLBACK | ROLLUP
  | ROW | ROW_NUMBER | ROWID | ROWS | SAFE_CAST | SAVEPOINT | SCHEMA | SCOPE | SCROLL | SEARCH
  | SECOND | SELECT | SEMI | SENSITIVE | SEQUENCE | SEQUENCEFILE | SEQUENCES | SERDE
  | SERIALIZABLE | SESSION | SESSION_USER | SET | SETS | SHARE | SHOW | SIMILAR | SKIP | SMALLINT
  | SNAPSHOT | SOME | SORT | SPATIAL | SPECIFIC | SPECIFICTYPE | SQL | SQLEXCEPTION | SQLSTATE
  | SQLWARNING | SQRT | STABLE | STAGE | START | STATIC | STATISTICS | STDDEV_POP | STDDEV_SAMP
  | STDIN | STDOUT | STORAGE_INTEGRATION | STORED | STRICT | STRING | SUBMULTISET | SUBSTRING
  | SUBSTRING_REGEX | SUCCEEDS | SUM | SUPER | SUPERUSER | SWAP | SYMMETRIC | SYNC | SYSTEM
  | SYSTEM_TIME | SYSTEM_USER | TABLE | TABLES | TABLESAMPLE | TBLPROPERTIES | TEMP | TEMPORARY
  | TEXT | TEXTFILE | THEN | TIES | TIME | TIMESTAMP | TIMESTAMPTZ | TIMETZ | TIMEZONE
  | TIMEZONE_HOUR | TIMEZONE_MINUTE | TINYINT | TO | TOP | TRAILING | TRANSACTION | TRANSIENT
  | TRANSLATE | TRANSLATE_REGEX | TRANSLATION | TREAT | TRIGGER | TRIM | TRIM_ARRAY | TRUE
  | TRUNCATE | TRY_CAST | TYPE | UESCAPE | UNBOUNDED | UNCACHE | UNCOMMITTED | UNION | UNIQUE
  | UNKNOWN | UNLOGGED | UNNEST | UNSIGNED | UNTIL | UPDATE | UPPER | URL | USAGE | USE | USER
  | USING | UUID | VALID | VALIDATION_MODE | VALUE | VALUE_OF | VALUES | VAR_POP | VAR_SAMP
  | VARBINARY | VARCHAR | VARIABLES | VARYING | VERBOSE | VERSIONING | VIEW | VIRTUAL | VOLATILE
  | WEEK | WHEN | WHENEVER | WHERE | WIDTH_BUCKET | WINDOW | WITH | WITHIN | WITHOUT | WORK
  | WRITE | XOR | YEAR | ZONE
  | UNDEFINED
deriving DecidableEq, Repr, Inhabited

namespace Keyword

/-- The catalogue in declaration order. -/
def all : List Keyword := [
  .ABORT, .ABS, .ABSOLUTE, .ACTION, .ADD, .ADMIN, .AGAINST, .ALL, .ALLOCATE, .ALTER, .ALWAYS,
  .ANALYZE, .AND, .ANTI, .ANY, .APPLY, .ARCHIVE, .ARE, .ARRAY, .ARRAY_AGG,
  .ARRAY_MAX_CARDINALITY, .AS, .ASC, .ASENSITIVE, .ASSERT, .ASYMMETRIC, .AT, .ATOMIC,
  .AUTHORIZATION, .AUTO_INCREMENT, .AUTOINCREMENT, .AVG, .AVRO, .BACKWARD, .BEGIN, .BEGIN_FRAME,
  .BEGIN_PARTITION, .BETWEEN, .BIGINT, .BIGNUMERIC, .BINARY, .BLOB, .BOOLEAN, .BOTH, .BTREE, .BY,
  .BYPASSRLS, .BYTEA, .CACHE, .CALL, .CALLED, .CARDINALITY, .CASCADE, .CASCADED, .CASE, .CAST,
  .CEIL, .CEILING, .CENTURY, .CHAIN, .CHANGE, .CHAR, .CHAR_LENGTH, .CHARACTER, .CHARACTER_LENGTH,
  .CHARACTERS, .CHARSET, .CHECK, .CLOB, .CLONE, .CLOSE, .CLUSTER, .COALESCE, .COLLATE,
  .COLLATION, .COLLECT, .COLUMN, .COLUMNS, .COMMENT, .COMMIT, .COMMITTED, .COMPRESSION, .COMPUTE,
  .CONDITION, .CONFLICT, .CONNECT, .CONNECTION, .CONSTRAINT, .CONTAINS, .CONVERT, .COPY,
  .COPY_OPTIONS, .CORR, .CORRESPONDING, .COUNT, .COVAR_POP, .COVAR_SAMP, .CREATE, .CREATEDB,
  .CREATEROLE, .CREDENTIALS, .CROSS, .CSV, .CUBE, .CUME_DIST, .CURRENT, .CURRENT_CATALOG,
  .CURRENT_DATE, .CURRENT_DEFAULT_TRANSFORM_GROUP, .CURRENT_PATH, .CURRENT_ROLE, .CURRENT_ROW,
  .CURRENT_SCHEMA, .CURRENT_TIME, .CURRENT_TIMESTAMP, .CURRENT_TRANSFORM_GROUP_FOR_TYPE,
  .CURRENT_USER, .CURSOR, .CYCLE, .DATA, .DATABASE, .DATE, .DATETIME, .DAY, .DEALLOCATE, .DEC,
  .DECADE, .DECIMAL, .DECLARE, .DEFAULT, .DELETE, .DELIMITED, .DELIMITER, .DENSE_RANK, .DEREF,
  .DESC, .DESCRIBE, .DETERMINISTIC, .DIRECTORY, .DISCARD, .DISCONNECT, .DISTINCT, .DISTRIBUTE,
  .DIV, .DO, .DOUBLE, .DOW, .DOY, .DROP, .DUPLICATE, .DYNAMIC, .EACH, .ELEMENT, .ELSE, .ENCODING,
  .ENCRYPTION, .END, .END_FRAME, .END_PARTITION, .END_EXEC, .ENDPOINT, .ENGINE, .ENUM, .EPOCH,
  .EQUALS, .ERROR, .ESCAPE, .EVENT, .EVERY, .EXCEPT, .EXCLUDE, .EXEC, .EXECUTE, .EXISTS, .EXP,
  .EXPANSION, .EXPLAIN, .EXTENDED, .EXTERNAL, .EXTRACT, .FAIL, .FALSE, .FETCH, .FIELDS, .FILE,
  .FILES, .FILE_FORMAT, .FILTER, .FIRST, .FIRST_VALUE, .FLOAT, .FLOOR, .FOLLOWING, .FOR, .FORCE,
  .FORCE_NOT_NULL, .FORCE_NULL, .FORCE_QUOTE, .FOREIGN, .FORMAT, .FORWARD, .FRAME_ROW, .FREE,
  .FREEZE, .FROM, .FULL, .FULLTEXT, .FUNCTION, .FUNCTIONS, .FUSION, .GENERATED, .GET, .GLOBAL,
  .GRANT, .GRANTED, .GRAPHVIZ, .GROUP, .GROUPING, .GROUPS, .HASH, .HAVING, .HEADER, .HIVEVAR,
  .HOLD, .HOUR, .IDENTITY, .IF, .IGNORE, .ILIKE, .IMMUTABLE, .IN, .INCREMENT, .INDEX, .INDICATOR,
  .INHERIT, .INNER, .INOUT, .INPUTFORMAT, .INSENSITIVE, .INSERT, .INT, .INTEGER, .INTERSECT,
  .INTERSECTION, .INTERVAL, .INTO, .IS, .ISODOW, .ISOLATION, .ISOYEAR, .JAR, .JOIN, .JSON,
  .JSONFILE, .JULIAN, .KEY, .KILL, .LAG, .LANGUAGE, .LARGE, .LAST, .LAST_VALUE, .LATERAL, .LEAD,
  .LEADING, .LEFT, .LEVEL, .LIKE, .LIKE_REGEX, .LIMIT, .LISTAGG, .LN, .LOCAL, .LOCALTIME,
  .LOCALTIMESTAMP, .LOCATION, .LOCKED, .LOGIN, .LOWER, .MACRO, .MANAGEDLOCATION, .MATCH,
  .MATCHED, .MATERIALIZED, .MAX, .MAXVALUE, .MEDIUMINT, .MEMBER, .MERGE, .METADATA, .METHOD,
  .MICROSECOND, .MICROSECONDS, .MILLENIUM, .MILLENNIUM, .MILLISECOND, .MILLISECONDS, .MIN,
  .MINUTE, .MINVALUE, .MOD, .MODE, .MODIFIES, .MODULE, .MONTH, .MSCK, .MULTISET, .MUTATION,
  .NANOSECOND, .NANOSECONDS, .NATIONAL, .NATURAL, .NCHAR, .NCLOB, .NEW, .NEXT, .NO, .NOBYPASSRLS,
  .NOCREATEDB, .NOCREATEROLE, .NOINHERIT, .NOLOGIN, .NONE, .NOREPLICATION, .NORMALIZE, .NOSCAN,
  .NOSUPERUSER, .NOT, .NOTHING, .NOWAIT, .NTH_VALUE, .NTILE, .NULL, .NULLIF, .NULLS, .NUMERIC,
  .NVARCHAR, .OBJECT, .OCCURRENCES_REGEX, .OCTET_LENGTH, .OCTETS, .OF, .OFFSET, .OLD, .ON, .ONLY,
  .OPEN, .OPERATOR, .OPTION, .OPTIONS, .OR, .ORC, .ORDER, .OUT, .OUTER, .OUTPUTFORMAT, .OVER,
  .OVERFLOW, .OVERLAPS, .OVERLAY, .OVERWRITE, .OWNED, .PARAMETER, .PARQUET, .PARTITION,
  .PARTITIONED, .PARTITIONS, .PASSWORD, .PATTERN, .PERCENT, .PERCENT_RANK, .PERCENTILE_CONT,
  .PERCENTILE_DISC, .PERIOD, .PIVOT, .PLACING, .PLANS, .PORTION, .POSITION, .POSITION_REGEX,
  .POWER, .PRECEDES, .PRECEDING, .PRECISION, .PREPARE, .PRESERVE, .PRIMARY, .PRIOR, .PRIVILEGES,
  .PROCEDURE, .PROGRAM, .PURGE, .QUALIFY, .QUARTER, .QUERY, .QUOTE, .RANGE, .RANK, .RCFILE,
  .READ, .READS, .REAL, .RECURSIVE, .REF, .REFERENCES, .REFERENCING, .REGCLASS, .REGR_AVGX,
  .REGR_AVGY, .REGR_COUNT, .REGR_INTERCEPT, .REGR_R2, .REGR_SLOPE, .REGR_SXX, .REGR_SXY,
  .REGR_SYY, .RELATIVE, .RELEASE, .RENAME, .REPAIR, .REPEATABLE, .REPLACE, .REPLICATION,
  .RESTRICT, .RESULT, .RETURN, .RETURNING, .RETURNS, .REVOKE, .RIGHT, .ROLE, .ROLLBACK, .ROLLUP,
  .ROW, .ROW_NUMBER, .ROWID, .ROWS, .SAFE_CAST, .SAVEPOINT, .SCHEMA, .SCOPE, .SCROLL, .SEARCH,
  .SECOND, .SELECT, .SEMI, .SENSITIVE, .SEQUENCE, .SEQUENCEFILE, .SEQUENCES, .SERDE,
  .SERIALIZABLE, .SESSION, .SESSION_USER, .SET, .SETS, .SHARE, .SHOW, .SIMILAR, .SKIP, .SMALLINT,
  .SNAPSHOT, .SOME, .SORT, .SPATIAL, .SPECIFIC, .SPECIFICTYPE, .SQL, .SQLEXCEPTION, .SQLSTATE,
  .SQLWARNING, .SQRT, .STABLE, .STAGE, .START, .STATIC, .STATISTICS, .STDDEV_POP, .STDDEV_SAMP,
  .STDIN, .STDOUT, .STORAGE_INTEGRATION, .STORED, .STRICT, .STRING, .SUBMULTISET, .SUBSTRING,
  .SUBSTRING_REGEX, .SUCCEEDS, .SUM, .SUPER, .SUPERUSER, .SWAP, .SYMMETRIC, .SYNC, .SYSTEM,
  .SYSTEM_TIME, .SYSTEM_USER, .TABLE, .TABLES, .TABLESAMPLE, .TBLPROPERTIES, .TEMP, .TEMPORARY,
  .TEXT, .TEXTFILE, .THEN, .TIES, .TIME, .TIMESTAMP, .TIMESTAMPTZ, .TIMETZ, .TIMEZONE,
  .TIMEZONE_HOUR, .TIMEZONE_MINUTE, .TINYINT, .TO, .TOP, .TRAILING, .TRANSACTION, .TRANSIENT,
  .TRANSLATE, .TRANSLATE_REGEX, .TRANSLATION, .TREAT, .TRIGGER, .TRIM, .TRIM_ARRAY, .TRUE,
  .TRUNCATE, .TRY_CAST, .TYPE, .UESCAPE, .UNBOUNDED, .UNCACHE, .UNCOMMITTED, .UNION, .UNIQUE,
  .UNKNOWN, .UNLOGGED, .UNNEST, .UNSIGNED, .UNTIL, .UPDATE, .UPPER, .URL, .USAGE, .USE, .USER,
  .USING, .UUID, .VALID, .VALIDATION_MODE, .VALUE, .VALUE_OF, .VALUES, .VAR_POP, .VAR_SAMP,
  .VARBINARY, .VARCHAR, .VARIABLES, .VARYING, .VERBOSE, .VERSIONING, .VIEW, .VIRTUAL, .VOLATILE,
  .WEEK, .WHEN, .WHENEVER, .WHERE, .WIDTH_BUCKET, .WINDOW, .WITH, .WITHIN, .WITHOUT, .WORK,
  .WRITE, .XOR, .YEAR, .ZONE]

/-! ## Names and texts -/

/-- The name a keyword is declared under. -/
def name : Keyword → String
  | .ABORT => "ABORT" | .ABS => "ABS" | .ABSOLUTE => "ABSOLUTE" | .ACTION => "ACTION"
  | .ADD => "ADD" | .ADMIN => "ADMIN" | .AGAINST => "AGAINST" | .ALL => "ALL"
  | .ALLOCATE => "ALLOCATE" | .ALTER => "ALTER" | .ALWAYS => "ALWAYS" | .ANALYZE => "ANALYZE"
  | .AND => "AND" | .ANTI => "ANTI" | .ANY => "ANY" | .APPLY => "APPLY" | .ARCHIVE => "ARCHIVE"
  | .ARE => "ARE" | .ARRAY => "ARRAY" | .ARRAY_AGG => "ARRAY_AGG"
  | .ARRAY_MAX_CARDINALITY => "ARRAY_MAX_CARDINALITY" | .AS => "AS" | .ASC => "ASC"
  | .ASENSITIVE => "ASENSITIVE" | .ASSERT => "ASSERT" | .ASYMMETRIC => "ASYMMETRIC" | .AT => "AT"
  | .ATOMIC => "ATOMIC" | .AUTHORIZATION => "AUTHORIZATION" | .AUTO_INCREMENT => "AUTO_INCREMENT"
  | .AUTOINCREMENT => "AUTOINCREMENT" | .AVG => "AVG" | .AVRO => "AVRO" | .BACKWARD => "BACKWARD"
  | .BEGIN => "BEGIN" | .BEGIN_FRAME => "BEGIN_FRAME" | .BEGIN_PARTITION => "BEGIN_PARTITION"
  | .BETWEEN => "BETWEEN" | .BIGINT => "BIGINT" | .BIGNUMERIC => "BIGNUMERIC"
  | .BINARY => "BINARY" | .BLOB => "BLOB" | .BOOLEAN => "BOOLEAN" | .BOTH => "BOTH"
  | .BTREE => "BTREE" | .BY => "BY" | .BYPASSRLS => "BYPASSRLS" | .BYTEA => "BYTEA"
  | .CACHE => "CACHE" | .CALL => "CALL" | .CALLED => "CALLED" | .CARDINALITY => "CARDINALITY"
  | .CASCADE => "CASCADE" | .CASCADED => "CASCADED" | .CASE => "CASE" | .CAST => "CAST"
  | .CEIL => "CEIL" | .CEILING => "CEILING" | .CENTURY => "CENTURY" | .CHAIN => "CHAIN"
  | .CHANGE => "CHANGE" | .CHAR => "CHAR" | .CHAR_LENGTH => "CHAR_LENGTH"
  | .CHARACTER => "CHARACTER" | .CHARACTER_LENGTH => "CHARACTER_LENGTH"
  | .CHARACTERS => "CHARACTERS" | .CHARSET => "CHARSET" | .CHECK => "CHECK" | .CLOB => "CLOB"
  | .CLONE => "CLONE" | .CLOSE => "CLOSE" | .CLUSTER => "CLUSTER" | .COALESCE => "COALESCE"
  | .COLLATE => "COLLATE" | .COLLATION => "COLLATION" | .COLLECT => "COLLECT"
  | .COLUMN => "COLUMN" | .COLUMNS => "COLUMNS" | .COMMENT => "COMMENT" | .COMMIT => "COMMIT"
  | .COMMITTED => "COMMITTED" | .COMPRESSION => "COMPRESSION" | .COMPUTE => "COMPUTE"
  | .CONDITION => "CONDITION" | .CONFLICT => "CONFLICT" | .CONNECT => "CONNECT"
  | .CONNECTION => "CONNECTION" | .CONSTRAINT => "CONSTRAINT" | .CONTAINS => "CONTAINS"
  | .CONVERT => "CONVERT" | .COPY => "COPY" | .COPY_OPTIONS => "COPY_OPTIONS" | .CORR => "CORR"
  | .CORRESPONDING => "CORRESPONDING" | .COUNT => "COUNT" | .COVAR_POP => "COVAR_POP"
  | .COVAR_SAMP => "COVAR_SAMP" | .CREATE => "CREATE" | .CREATEDB => "CREATEDB"
  | .CREATEROLE => "CREATEROLE" | .CREDENTIALS => "CREDENTIALS" | .CROSS => "CROSS"
  | .CSV => "CSV" | .CUBE => "CUBE" | .CUME_DIST => "CUME_DIST" | .CURRENT => "CURRENT"
  | .CURRENT_CATALOG => "CURRENT_CATALOG" | .CURRENT_DATE => "CURRENT_DATE"
  | .CURRENT_DEFAULT_TRANSFORM_GROUP => "CURRENT_DEFAULT_TRANSFORM_GROUP"
  | .CURRENT_PATH => "CURRENT_PATH" | .CURRENT_ROLE => "CURRENT_ROLE"
  | .CURRENT_ROW => "CURRENT_ROW" | .CURRENT_SCHEMA => "CURRENT_SCHEMA"
  | .CURRENT_TIME => "CURRENT_TIME" | .CURRENT_TIMESTAMP => "CURRENT_TIMESTAMP"
  | .CURRENT_TRANSFORM_GROUP_FOR_TYPE => "CURRENT_TRANSFORM_GROUP_FOR_TYPE"
  | .CURRENT_USER => "CURRENT_USER" | .CURSOR => "CURSOR" | .CYCLE => "CYCLE" | .DATA => "DATA"
  | .DATABASE => "DATABASE" | .DATE => "DATE" | .DATETIME => "DATETIME" | .DAY => "DAY"
  | .DEALLOCATE => "DEALLOCATE" | .DEC => "DEC" | .DECADE => "DECADE" | .DECIMAL => "DECIMAL"
  | .DECLARE => "DECLARE" | .DEFAULT => "DEFAULT" | .DELETE => "DELETE"
  | .DELIMITED => "DELIMITED" | .DELIMITER => "DELIMITER" | .DENSE_RANK => "DENSE_RANK"
  | .DEREF => "DEREF" | .DESC => "DESC" | .DESCRIBE => "DESCRIBE"
  | .DETERMINISTIC => "DETERMINISTIC" | .DIRECTORY => "DIRECTORY" | .DISCARD => "DISCARD"
  | .DISCONNECT => "DISCONNECT" | .DISTINCT => "DISTINCT" | .DISTRIBUTE => "DISTRIBUTE"
  | .DIV => "DIV" | .DO => "DO" | .DOUBLE => "DOUBLE" | .DOW => "DOW" | .DOY => "DOY"
  | .DROP => "DROP" | .DUPLICATE => "DUPLICATE" | .DYNAMIC => "DYNAMIC" | .EACH => "EACH"
  | .ELEMENT => "ELEMENT" | .ELSE => "ELSE" | .ENCODING => "ENCODING"
  | .ENCRYPTION => "ENCRYPTION" | .END => "END" | .END_FRAME => "END_FRAME"
  | .END_PARTITION => "END_PARTITION" | .END_EXEC => "END_EXEC" | .ENDPOINT => "ENDPOINT"
  | .ENGINE => "ENGINE" | .ENUM => "ENUM" | .EPOCH => "EPOCH" | .EQUALS => "EQUALS"
  | .ERROR => "ERROR" | .ESCAPE => "ESCAPE" | .EVENT => "EVENT" | .EVERY => "EVERY"
  | .EXCEPT => "EXCEPT" | .EXCLUDE => "EXCLUDE" | .EXEC => "EXEC" | .EXECUTE => "EXECUTE"
  | .EXISTS => "EXISTS" | .EXP => "EXP" | .EXPANSION => "EXPANSION" | .EXPLAIN => "EXPLAIN"
  | .EXTENDED => "EXTENDED" | .EXTERNAL => "EXTERNAL" | .EXTRACT => "EXTRACT" | .FAIL => "FAIL"
  | .FALSE => "FALSE" | .FETCH => "FETCH" | .FIELDS => "FIELDS" | .FILE => "FILE"
  | .FILES => "FILES" | .FILE_FORMAT => "FILE_FORMAT" | .FILTER => "FILTER" | .FIRST => "FIRST"
  | .FIRST_VALUE => "FIRST_VALUE" | .FLOAT => "FLOAT" | .FLOOR => "FLOOR"
  | .FOLLOWING => "FOLLOWING" | .FOR => "FOR" | .FORCE => "FORCE"
  | .FORCE_NOT_NULL => "FORCE_NOT_NULL" | .FORCE_NULL => "FORCE_NULL"
  | .FORCE_QUOTE => "FORCE_QUOTE" | .FOREIGN => "FOREIGN" | .FORMAT => "FORMAT"
  | .FORWARD => "FORWARD" | .FRAME_ROW => "FRAME_ROW" | .FREE => "FREE" | .FREEZE => "FREEZE"
  | .FROM => "FROM" | .FULL => "FULL" | .FULLTEXT => "FULLTEXT" | .FUNCTION => "FUNCTION"
  | .FUNCTIONS => "FUNCTIONS" | .FUSION => "FUSION" | .GENERATED => "GENERATED" | .GET => "GET"
  | .GLOBAL => "GLOBAL" | .GRANT => "GRANT" | .GRANTED => "GRANTED" | .GRAPHVIZ => "GRAPHVIZ"
  | .GROUP => "GROUP" | .GROUPING => "GROUPING" | .GROUPS => "GROUPS" | .HASH => "HASH"
  | .HAVING => "HAVING" | .HEADER => "HEADER" | .HIVEVAR => "HIVEVAR" | .HOLD => "HOLD"
  | .HOUR => "HOUR" | .IDENTITY => "IDENTITY" | .IF => "IF" | .IGNORE => "IGNORE"
  | .ILIKE => "ILIKE" | .IMMUTABLE => "IMMUTABLE" | .IN => "IN" | .INCREMENT => "INCREMENT"
  | .INDEX => "INDEX" | .INDICATOR => "INDICATOR" | .INHERIT => "INHERIT" | .INNER => "INNER"
  | .INOUT => "INOUT" | .INPUTFORMAT => "INPUTFORMAT" | .INSENSITIVE => "INSENSITIVE"
  | .INSERT => "INSERT" | .INT => "INT" | .INTEGER => "INTEGER" | .INTERSECT => "INTERSECT"
  | .INTERSECTION => "INTERSECTION" | .INTERVAL => "INTERVAL" | .INTO => "INTO" | .IS => "IS"
  | .ISODOW => "ISODOW" | .ISOLATION => "ISOLATION" | .ISOYEAR => "ISOYEAR" | .JAR => "JAR"
  | .JOIN => "JOIN" | .JSON => "JSON" | .JSONFILE => "JSONFILE" | .JULIAN => "JULIAN"
  | .KEY => "KEY" | .KILL => "KILL" | .LAG => "LAG" | .LANGUAGE => "LANGUAGE" | .LARGE => "LARGE"
  | .LAST => "LAST" | .LAST_VALUE => "LAST_VALUE" | .LATERAL => "LATERAL" | .LEAD => "LEAD"
  | .LEADING => "LEADING" | .LEFT => "LEFT" | .LEVEL => "LEVEL" | .LIKE => "LIKE"
  | .LIKE_REGEX => "LIKE_REGEX" | .LIMIT => "LIMIT" | .LISTAGG => "LISTAGG" | .LN => "LN"
  | .LOCAL => "LOCAL" | .LOCALTIME => "LOCALTIME" | .LOCALTIMESTAMP => "LOCALTIMESTAMP"
  | .LOCATION => "LOCATION" | .LOCKED => "LOCKED" | .LOGIN => "LOGIN" | .LOWER => "LOWER"
  | .MACRO => "MACRO" | .MANAGEDLOCATION => "MANAGEDLOCATION" | .MATCH => "MATCH"
  | .MATCHED => "MATCHED" | .MATERIALIZED => "MATERIALIZED" | .MAX => "MAX"
  | .MAXVALUE => "MAXVALUE" | .MEDIUMINT => "MEDIUMINT" | .MEMBER => "MEMBER" | .MERGE => "MERGE"
  | .METADATA => "METADATA" | .METHOD => "METHOD" | .MICROSECOND => "MICROSECOND"
  | .MICROSECONDS => "MICROSECONDS" | .MILLENIUM => "MILLENIUM" | .MILLENNIUM => "MILLENNIUM"
  | .MILLISECOND => "MILLISECOND" | .MILLISECONDS => "MILLISECONDS" | .MIN => "MIN"
  | .MINUTE => "MINUTE" | .MINVALUE => "MINVALUE" | .MOD => "MOD" | .MODE => "MODE"
  | .MODIFIES => "MODIFIES" | .MODULE => "MODULE" | .MONTH => "MONTH" | .MSCK => "MSCK"
  | .MULTISET => "MULTISET" | .MUTATION => "MUTATION" | .NANOSECOND => "NANOSECOND"
  | .NANOSECONDS => "NANOSECONDS" | .NATIONAL => "NATIONAL" | .NATURAL => "NATURAL"
  | .NCHAR => "NCHAR" | .NCLOB => "NCLOB" | .NEW => "NEW" | .NEXT => "NEXT" | .NO => "NO"
  | .NOBYPASSRLS => "NOBYPASSRLS" | .NOCREATEDB => "NOCREATEDB" | .NOCREATEROLE => "NOCREATEROLE"
  | .NOINHERIT => "NOINHERIT" | .NOLOGIN => "NOLOGIN" | .NONE => "NONE"
  | .NOREPLICATION => "NOREPLICATION" | .NORMALIZE => "NORMALIZE" | .NOSCAN => "NOSCAN"
  | .NOSUPERUSER => "NOSUPERUSER" | .NOT => "NOT" | .NOTHING => "NOTHING" | .NOWAIT => "NOWAIT"
  | .NTH_VALUE => "NTH_VALUE" | .NTILE => "NTILE" | .NULL => "NULL" | .NULLIF => "NULLIF"
  | .NULLS => "NULLS" | .NUMERIC => "NUMERIC" | .NVARCHAR => "NVARCHAR" | .OBJECT => "OBJECT"
  | .OCCURRENCES_REGEX => "OCCURRENCES_REGEX" | .OCTET_LENGTH => "OCTET_LENGTH"
  | .OCTETS => "OCTETS" | .OF => "OF" | .OFFSET => "OFFSET" | .OLD => "OLD" | .ON => "ON"
  | .ONLY => "ONLY" | .OPEN => "OPEN" | .OPERATOR => "OPERATOR" | .OPTION => "OPTION"
  | .OPTIONS => "OPTIONS" | .OR => "OR" | .ORC => "ORC" | .ORDER => "ORDER" | .OUT => "OUT"
  | .OUTER => "OUTER" | .OUTPUTFORMAT => "OUTPUTFORMAT" | .OVER => "OVER"
  | .OVERFLOW => "OVERFLOW" | .OVERLAPS => "OVERLAPS" | .OVERLAY => "OVERLAY"
  | .OVERWRITE => "OVERWRITE" | .OWNED => "OWNED" | .PARAMETER => "PARAMETER"
  | .PARQUET => "PARQUET" | .PARTITION => "PARTITION" | .PARTITIONED => "PARTITIONED"
  | .PARTITIONS => "PARTITIONS" | .PASSWORD => "PASSWORD" | .PATTERN => "PATTERN"
  | .PERCENT => "PERCENT" | .PERCENT_RANK => "PERCENT_RANK"
  | .PERCENTILE_CONT => "PERCENTILE_CONT" | .PERCENTILE_DISC => "PERCENTILE_DISC"
  | .PERIOD => "PERIOD" | .PIVOT => "PIVOT" | .PLACING => "PLACING" | .PLANS => "PLANS"
  | .PORTION => "PORTION" | .POSITION => "POSITION" | .POSITION_REGEX => "POSITION_REGEX"
  | .POWER => "POWER" | .PRECEDES => "PRECEDES" | .PRECEDING => "PRECEDING"
  | .PRECISION => "PRECISION" | .PREPARE => "PREPARE" | .PRESERVE => "PRESERVE"
  | .PRIMARY => "PRIMARY" | .PRIOR => "PRIOR" | .PRIVILEGES => "PRIVILEGES"
  | .PROCEDURE => "PROCEDURE" | .PROGRAM => "PROGRAM" | .PURGE => "PURGE" | .QUALIFY => "QUALIFY"
  | .QUARTER => "QUARTER" | .QUERY => "QUERY" | .QUOTE => "QUOTE" | .RANGE => "RANGE"
  | .RANK => "RANK" | .RCFILE => "RCFILE" | .READ => "READ" | .READS => "READS" | .REAL => "REAL"
  | .RECURSIVE => "RECURSIVE" | .REF => "REF" | .REFERENCES => "REFERENCES"
  | .REFERENCING => "REFERENCING" | .REGCLASS => "REGCLASS" | .REGR_AVGX => "REGR_AVGX"
  | .REGR_AVGY => "REGR_AVGY" | .REGR_COUNT => "REGR_COUNT" | .REGR_INTERCEPT => "REGR_INTERCEPT"
  | .REGR_R2 => "REGR_R2" | .REGR_SLOPE => "REGR_SLOPE" | .REGR_SXX => "REGR_SXX"
  | .REGR_SXY => "REGR_SXY" | .REGR_SYY => "REGR_SYY" | .RELATIVE => "RELATIVE"
  | .RELEASE => "RELEASE" | .RENAME => "RENAME" | .REPAIR => "REPAIR"
  | .REPEATABLE => "REPEATABLE" | .REPLACE => "REPLACE" | .REPLICATION => "REPLICATION"
  | .RESTRICT => "RESTRICT" | .RESULT => "RESULT" | .RETURN => "RETURN"
  | .RETURNING => "RETURNING" | .RETURNS => "RETURNS" | .REVOKE => "REVOKE" | .RIGHT => "RIGHT"
  | .ROLE => "ROLE" | .ROLLBACK => "ROLLBACK" | .ROLLUP => "ROLLUP" | .ROW => "ROW"
  | .ROW_NUMBER => "ROW_NUMBER" | .ROWID => "ROWID" | .ROWS => "ROWS" | .SAFE_CAST => "SAFE_CAST"
  | .SAVEPOINT => "SAVEPOINT" | .SCHEMA => "SCHEMA" | .SCOPE => "SCOPE" | .SCROLL => "SCROLL"
  | .SEARCH => "SEARCH" | .SECOND => "SECOND" | .SELECT => "SELECT" | .SEMI => "SEMI"
  | .SENSITIVE => "SENSITIVE" | .SEQUENCE => "SEQUENCE" | .SEQUENCEFILE => "SEQUENCEFILE"
  | .SEQUENCES => "SEQUENCES" | .SERDE => "SERDE" | .SERIALIZABLE => "SERIALIZABLE"
  | .SESSION => "SESSION" | .SESSION_USER => "SESSION_USER" | .SET => "SET" | .SETS => "SETS"
  | .SHARE => "SHARE" | .SHOW => "SHOW" | .SIMILAR => "SIMILAR" | .SKIP => "SKIP"
  | .SMALLINT => "SMALLINT" | .SNAPSHOT => "SNAPSHOT" | .SOME => "SOME" | .SORT => "SORT"
  | .SPATIAL => "SPATIAL" | .SPECIFIC => "SPECIFIC" | .SPECIFICTYPE => "SPECIFICTYPE"
  | .SQL => "SQL" | .SQLEXCEPTION => "SQLEXCEPTION" | .SQLSTATE => "SQLSTATE"
  | .SQLWARNING => "SQLWARNING" | .SQRT => "SQRT" | .STABLE => "STABLE" | .STAGE => "STAGE"
  | .START => "START" | .STATIC => "STATIC" | .STATISTICS => "STATISTICS"
  | .STDDEV_POP => "STDDEV_POP" | .STDDEV_SAMP => "STDDEV_SAMP" | .STDIN => "STDIN"
  | .STDOUT => "STDOUT" | .STORAGE_INTEGRATION => "STORAGE_INTEGRATION" | .STORED => "STORED"
  | .STRICT => "STRICT" | .STRING => "STRING" | .SUBMULTISET => "SUBMULTISET"
  | .SUBSTRING => "SUBSTRING" | .SUBSTRING_REGEX => "SUBSTRING_REGEX" | .SUCCEEDS => "SUCCEEDS"
  | .SUM => "SUM" | .SUPER => "SUPER" | .SUPERUSER => "SUPERUSER" | .SWAP => "SWAP"
  | .SYMMETRIC => "SYMMETRIC" | .SYNC => "SYNC" | .SYSTEM => "SYSTEM"
  | .SYSTEM_TIME => "SYSTEM_TIME" | .SYSTEM_USER => "SYSTEM_USER" | .TABLE => "TABLE"
  | .TABLES => "TABLES" | .TABLESAMPLE => "TABLESAMPLE" | .TBLPROPERTIES => "TBLPROPERTIES"
  | .TEMP => "TEMP" | .TEMPORARY => "TEMPORARY" | .TEXT => "TEXT" | .TEXTFILE => "TEXTFILE"
  | .THEN => "THEN" | .TIES => "TIES" | .TIME => "TIME" | .TIMESTAMP => "TIMESTAMP"
  | .TIMESTAMPTZ => "TIMESTAMPTZ" | .TIMETZ => "TIMETZ" | .TIMEZONE => "TIMEZONE"
  | .TIMEZONE_HOUR => "TIMEZONE_HOUR" | .TIMEZONE_MINUTE => "TIMEZONE_MINUTE"
  | .TINYINT => "TINYINT" | .TO => "TO" | .TOP => "TOP" | .TRAILING => "TRAILING"
  | .TRANSACTION => "TRANSACTION" | .TRANSIENT => "TRANSIENT" | .TRANSLATE => "TRANSLATE"
  | .TRANSLATE_REGEX => "TRANSLATE_REGEX" | .TRANSLATION => "TRANSLATION" | .TREAT => "TREAT"
  | .TRIGGER => "TRIGGER" | .TRIM => "TRIM" | .TRIM_ARRAY => "TRIM_ARRAY" | .TRUE => "TRUE"
  | .TRUNCATE => "TRUNCATE" | .TRY_CAST => "TRY_CAST" | .TYPE => "TYPE" | .UESCAPE => "UESCAPE"
  | .UNBOUNDED => "UNBOUNDED" | .UNCACHE => "UNCACHE" | .UNCOMMITTED => "UNCOMMITTED"
  | .UNION => "UNION" | .UNIQUE => "UNIQUE" | .UNKNOWN => "UNKNOWN" | .UNLOGGED => "UNLOGGED"
  | .UNNEST => "UNNEST" | .UNSIGNED => "UNSIGNED" | .UNTIL => "UNTIL" | .UPDATE => "UPDATE"
  | .UPPER => "UPPER" | .URL => "URL" | .USAGE => "USAGE" | .USE => "USE" | .USER => "USER"
  | .USING => "USING" | .UUID => "UUID" | .VALID => "VALID"
  | .VALIDATION_MODE => "VALIDATION_MODE" | .VALUE => "VALUE" | .VALUE_OF => "VALUE_OF"
  | .VALUES => "VALUES" | .VAR_POP => "VAR_POP" | .VAR_SAMP => "VAR_SAMP"
  | .VARBINARY => "VARBINARY" | .VARCHAR => "VARCHAR" | .VARIABLES => "VARIABLES"
  | .VARYING => "VARYING" | .VERBOSE => "VERBOSE" | .VERSIONING => "VERSIONING" | .VIEW => "VIEW"
  | .VIRTUAL => "VIRTUAL" | .VOLATILE => "VOLATILE" | .WEEK => "WEEK" | .WHEN => "WHEN"
  | .WHENEVER => "WHENEVER" | .WHERE => "WHERE" | .WIDTH_BUCKET => "WIDTH_BUCKET"
  | .WINDOW => "WINDOW" | .WITH => "WITH" | .WITHIN => "WITHIN" | .WITHOUT => "WITHOUT"
  | .WORK => "WORK" | .WRITE => "WRITE" | .XOR => "XOR" | .YEAR => "YEAR" | .ZONE => "ZONE"
  | .UNDEFINED => "UNDEFINED"

/-- The keywords that are not written as their name. -/
def renamed : List (Keyword × String) := [(.END_EXEC, "END-EXEC")]

/-- How a keyword is written in a statement. -/
def text (k : Keyword) : String := (renamed.lookup k).getD k.name

/-- Whether it is in the catalogue. -/
def isDefined : Keyword → Bool
  | .UNDEFINED => false
  | _ => true

/-- Its position in the catalogue. -/
def position? (k : Keyword) : Option Nat := all.idxOf? k

instance : ToString Keyword := ⟨text⟩

/-! ## Order -/

/-- The order of declaration. -/
def le (a b : Keyword) : Bool := a.ctorIdx ≤ b.ctorIdx

/-- Equal keywords all stay. -/
def sort (ks : List Keyword) : List Keyword := ks.mergeSort le

end Keyword

end SqlText
