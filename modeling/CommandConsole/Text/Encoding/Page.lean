import CommandConsole.Number.Integer
import CommandConsole.Text.Split

/-!
# Encodings with a page

The characters of single bytes, and the bytes of characters. Of several bytes that are the same
character the last one is written.
-/

/-!
## Pages of characters

Encodings in which each byte is a character: their names, and the characters of the bytes in order.
A row has commas between its parts. A part is the code of a character, or a dash for none, and after
a star how many bytes in a row have characters in a row.
-/

namespace CommandConsole.Text

namespace Encoding

/-- The first half of the pages. -/
def firstPages : List (List String × String) := [
  (["cp037", "037", "csibm037", "ebcdic_cp_ca", "ebcdic_cp_nl", "ebcdic_cp_us", "ebcdic_cp_wt",
    "ibm037", "ibm039"],
    "0*4,9c,9,86,7f,97,8d*2,b*9,9d,85,8,87,18*2,92,8f,1c*4,80*5,a,17,1b,88*5,5*3,90*2,16," ++
     "93*4,4,98*4,14*2,9e,1a,20,a0,e2,e4,e0*2,e3,e5,e7,f1,a2,2e,3c,28,2b,7c,26,e9*3,e8,ed*3," ++
     "ec,df,21,24,2a,29,3b,ac,2d,2f,c2,c4,c0*2,c3,c5,c7,d1,a6,2c,25,5f,3e*2,f8,c9*3,c8,cd*3," ++
     "cc,60,3a,23,40,27,3d,22,d8,61*9,ab,bb,f0,fd*2,b1,b0,6a*9,aa,ba,e6,b8,c6,a4,b5,7e,73*8," ++
     "a1,bf,d0,dd*2,ae,5e,a3,a5,b7,a9,a7,b6,bc*3,5b,5d,af,a8,b4,d7,7b,41*9,ad,f4,f6,f2*2,f5," ++
     "7d,4a*9,b9,fb*2,f9*2,ff,5c,f7,53*8,b2,d4,d6,d2*2,d5,30*10,b3,db*2,d9*2,9f"),
  (["cp1006"],
    "0*161,6f0*10,60c,61b,ad,61f,fe81,fe8d*2,fe8e*2,fe91,fb56,fb58,fe93,fe95,fe97,fb66,fb68," ++
     "fe99,fe9b,fe9d,fe9f,fb7a,fb7c,fea1,fea3,fea5,fea7,fea9,fb84,feab,fead,fb8c,feaf,fb8a," ++
     "feb1,feb3,feb5,feb7,feb9,febb,febd,febf,fec1,fec5,fec9*9,fed3,fed5,fed7,fed9,fedb,fb92," ++
     "fb94,fedd,fedf*3,fee3,fb9e,fee5,fee7,fe85,feed,fba6,fba8*3,fe80,fe89*3,fef1*3,fbb0,fbae," ++
     "fe7c*2"),
  (["cp1026", "1026", "csibm1026", "ibm1026"],
    "0*4,9c,9,86,7f,97,8d*2,b*9,9d,85,8,87,18*2,92,8f,1c*4,80*5,a,17,1b,88*5,5*3,90*2,16," ++
     "93*4,4,98*4,14*2,9e,1a,20,a0,e2,e4,e0*2,e3,e5,7b,f1,c7,2e,3c,28,2b,21,26,e9*3,e8,ed*3," ++
     "ec,df,11e,130,2a,29,3b,5e,2d,2f,c2,c4,c0*2,c3,c5,5b,d1,15f,2c,25,5f,3e*2,f8,c9*3,c8," ++
     "cd*3,cc,131,3a,d6,15e,27,3d,dc,d8,61*9,ab,bb,7d,60,a6,b1,b0,6a*9,aa,ba,e6,b8,c6,a4,b5," ++
     "f6,73*8,a1,bf,5d,24,40,ae,a2*2,a5,b7,a9,a7,b6,bc*3,ac,7c,af,a8,b4,d7,e7,41*9,ad,f4,7e," ++
     "f2*2,f5,11f,4a*9,b9,fb,5c,f9*2,ff,fc,f7,53*8,b2,d4,23,d2*2,d5,30*10,b3,db,22,d9*2,9f"),
  (["cp1125", "1125", "ibm1125", "cp866u", "ruscii"],
    "0*128,410*48,2591*3,2502,2524,2561*2,2556,2555,2563,2551,2557,255d,255c,255b,2510,2514," ++
     "2534,252c,251c,2500,253c,255e*2,255a,2554,2569,2566,2560,2550,256c,2567*2,2564*2,2559," ++
     "2558,2552*2,256b,256a,2518,250c,2588,2584,258c,2590,2580,440*16,401,451,490*2,404,454," ++
     "406,456,407,457,b7,221a,2116,a4,25a0,a0"),
  (["cp1140", "1140", "ibm1140"],
    "0*4,9c,9,86,7f,97,8d*2,b*9,9d,85,8,87,18*2,92,8f,1c*4,80*5,a,17,1b,88*5,5*3,90*2,16," ++
     "93*4,4,98*4,14*2,9e,1a,20,a0,e2,e4,e0*2,e3,e5,e7,f1,a2,2e,3c,28,2b,7c,26,e9*3,e8,ed*3," ++
     "ec,df,21,24,2a,29,3b,ac,2d,2f,c2,c4,c0*2,c3,c5,c7,d1,a6,2c,25,5f,3e*2,f8,c9*3,c8,cd*3," ++
     "cc,60,3a,23,40,27,3d,22,d8,61*9,ab,bb,f0,fd*2,b1,b0,6a*9,aa,ba,e6,b8,c6,20ac,b5,7e,73*8," ++
     "a1,bf,d0,dd*2,ae,5e,a3,a5,b7,a9,a7,b6,bc*3,5b,5d,af,a8,b4,d7,7b,41*9,ad,f4,f6,f2*2,f5," ++
     "7d,4a*9,b9,fb*2,f9*2,ff,5c,f7,53*8,b2,d4,d6,d2*2,d5,30*10,b3,db*2,d9*2,9f"),
  (["cp1250", "1250", "windows_1250"],
    "0*128,20ac,-,201a,-,201e,2026,2020*2,-,2030,160,2039,15a,164,17d,179,-,2018*2,201c*2," ++
     "2022,2013*2,-,2122,161,203a,15b,165,17e,17a,a0,2c7,2d8,141,a4,104,a6*4,15e,ab*4,17b," ++
     "b0*2,2db,142,b4*5,105,15f,bb,13d,2dd,13e,17c,154,c1*2,102,c4,139,106,c7,10c,c9,118,cb," ++
     "11a,cd*2,10e,110,143,147,d3*2,150,d6*2,158,16e,da,170,dc*2,162,df,155,e1*2,103,e4,13a," ++
     "107,e7,10d,e9,119,eb,11b,ed*2,10f,111,144,148,f3*2,151,f6*2,159,16f,fa,171,fc*2,163,2d9"),
  (["cp1251", "1251", "windows_1251"],
    "0*128,402*2,201a,453,201e,2026,2020*2,20ac,2030,409,2039,40a,40c,40b,40f,452,2018*2," ++
     "201c*2,2022,2013*2,-,2122,459,203a,45a,45c,45b,45f,a0,40e,45e,408,a4,490,a6*2,401,a9," ++
     "404,ab*4,407,b0*2,406,456,491,b5*3,451,2116,454,bb,458,405,455,457,410*64"),
  (["cp1252", "1252", "windows_1252"],
    "0*128,20ac,-,201a,192,201e,2026,2020*2,2c6,2030,160,2039,152,-,17d,-*2,2018*2,201c*2," ++
     "2022,2013*2,2dc,2122,161,203a,153,-,17e,178,a0*96"),
  (["cp1253", "1253", "windows_1253"],
    "0*128,20ac,-,201a,192,201e,2026,2020*2,-,2030,-,2039,-*5,2018*2,201c*2,2022,2013*2,-," ++
     "2122,-,203a,-*4,a0,385*2,a3*7,-,ab*4,2015,b0*4,384,b5*3,388*3,bb,38c,bd,38e*20,-,3a3*44"),
  (["cp1254", "1254", "windows_1254"],
    "0*128,20ac,-,201a,192,201e,2026,2020*2,2c6,2030,160,2039,152,-*4,2018*2,201c*2,2022," ++
     "2013*2,2dc,2122,161,203a,153,-*2,178,a0*48,11e,d1*12,130,15e,df*17,11f,f1*12,131,15f,ff"),
  (["cp1255", "1255", "windows_1255"],
    "0*128,20ac,-,201a,192,201e,2026,2020*2,2c6,2030,-,2039,-*5,2018*2,201c*2,2022,2013*2," ++
     "2dc,2122,-,203a,-*4,a0*4,20aa,a5*5,d7,ab*15,f7,bb*5,5b0*10,-,5bb*9,5f0*5,-*7,5d0*27,-*2," ++
     "200e*2"),
  (["cp1256", "1256", "windows_1256"],
    "0*128,20ac,67e,201a,192,201e,2026,2020*2,2c6,2030,679,2039,152,686,698,688,6af,2018*2," ++
     "201c*2,2022,2013*2,6a9,2122,691,203a,153,200c*2,6ba,a0,60c,a2*8,6be,ab*15,61b,bb*4,61f," ++
     "6c1,621*22,d7,637*4,640*4,e0,644,e2,645*4,e7*5,649*2,ee*2,64b*4,f4,64f*2,f7,651,f9,652," ++
     "fb*2,200e*2,6d2"),
  (["cp1257", "1257", "windows_1257"],
    "0*128,20ac,-,201a,-,201e,2026,2020*2,-,2030,-,2039,-,a8,2c7,b8,-,2018*2,201c*2,2022," ++
     "2013*2,-,2122,-,203a,-,af,2db,-,a0,-,a2*3,-,a6*2,d8,a9,156,ab*4,c6,b0*8,f8,b9,157,bb*4," ++
     "e6,104,12e,100,106,c4*2,118,112,10c,c9,179,116,122,136,12a,13b,160,143,145,d3,14c,d5*3," ++
     "172,141,15a,16a,dc,17b,17d,df,105,12f,101,107,e4*2,119,113,10d,e9,17a,117,123,137,12b," ++
     "13c,161,144,146,f3,14d,f5*3,173,142,15b,16b,fc,17c,17e,2d9"),
  (["cp1258", "1258", "windows_1258"],
    "0*128,20ac,-,201a,192,201e,2026,2020*2,2c6,2030,-,2039,152,-*4,2018*2,201c*2,2022," ++
     "2013*2,2dc,2122,-,203a,153,-*2,178,a0*35,102,c4*8,300,cd*3,110,d1,309,d3*2,1a0,d6*7,1af," ++
     "303,df*4,103,e4*8,301,ed*3,111,f1,323,f3*2,1a1,f6*7,1b0,20ab,ff"),
  (["cp273", "273", "ibm273", "csibm273"],
    "0*4,9c,9,86,7f,97,8d*2,b*9,9d,85,8,87,18*2,92,8f,1c*4,80*5,a,17,1b,88*5,5*3,90*2,16," ++
     "93*4,4,98*4,14*2,9e,1a,20,a0,e2,7b,e0*2,e3,e5,e7,f1,c4,2e,3c,28,2b,21,26,e9*3,e8,ed*3," ++
     "ec,7e,dc,24,2a,29,3b,5e,2d,2f,c2,5b,c0*2,c3,c5,c7,d1,f6,2c,25,5f,3e*2,f8,c9*3,c8,cd*3," ++
     "cc,60,3a,23,a7,27,3d,22,d8,61*9,ab,bb,f0,fd*2,b1,b0,6a*9,aa,ba,e6,b8,c6,a4,b5,df,73*8," ++
     "a1,bf,d0,dd*2,ae,a2*2,a5,b7,a9,40,b6,bc*3,ac,7c,203e,a8,b4,d7,e4,41*9,ad,f4,a6,f2*2,f5," ++
     "fc,4a*9,b9,fb,7d,f9*2,ff,d6,f7,53*8,b2,d4,5c,d2*2,d5,30*10,b3,db,5d,d9*2,9f"),
  (["cp424", "424", "csibm424", "ebcdic_cp_he", "ibm424"],
    "0*4,9c,9,86,7f,97,8d*2,b*9,9d,85,8,87,18*2,92,8f,1c*4,80*5,a,17,1b,88*5,5*3,90*2,16," ++
     "93*4,4,98*4,14*2,9e,1a,20,5d0*9,a2,2e,3c,28,2b,7c,26,5d9*9,21,24,2a,29,3b,ac,2d,2f," ++
     "5e2*8,a6,2c,25,5f,3e*2,-,5ea,-*2,a0,-*3,2017,60,3a,23,40,27,3d,22,-,61*9,ab,bb,-*3,b1," ++
     "b0,6a*9,-*3,b8,-,a4,b5,7e,73*8,-*5,ae,5e,a3,a5,b7,a9,a7,b6,bc*3,5b,5d,af,a8,b4,d7,7b," ++
     "41*9,ad,-*5,7d,4a*9,b9,-*5,5c,f7,53*8,b2,-*5,30*10,b3,-*4,9f"),
  (["cp437", "437", "cspc8codepage437", "ibm437"],
    "0*128,c7,fc,e9,e2,e4,e0,e5,e7,ea*2,e8,ef,ee,ec,c4*2,c9,e6,c6,f4,f6,f2,fb,f9,ff,d6,dc," ++
     "a2*2,a5,20a7,192,e1,ed,f3,fa,f1,d1,aa,ba,bf,2310,ac,bd,bc,a1,ab,bb,2591*3,2502,2524," ++
     "2561*2,2556,2555,2563,2551,2557,255d,255c,255b,2510,2514,2534,252c,251c,2500,253c," ++
     "255e*2,255a,2554,2569,2566,2560,2550,256c,2567*2,2564*2,2559,2558,2552*2,256b,256a,2518," ++
     "250c,2588,2584,258c,2590,2580,3b1,df,393,3c0,3a3,3c3,b5,3c4,3a6,398,3a9,3b4,221e,3c6," ++
     "3b5,2229,2261,b1,2265,2264,2320*2,f7,2248,b0,2219,b7,221a,207f,b2,25a0,a0"),
  (["cp500", "500", "csibm500", "ebcdic_cp_be", "ebcdic_cp_ch", "ibm500"],
    "0*4,9c,9,86,7f,97,8d*2,b*9,9d,85,8,87,18*2,92,8f,1c*4,80*5,a,17,1b,88*5,5*3,90*2,16," ++
     "93*4,4,98*4,14*2,9e,1a,20,a0,e2,e4,e0*2,e3,e5,e7,f1,5b,2e,3c,28,2b,21,26,e9*3,e8,ed*3," ++
     "ec,df,5d,24,2a,29,3b,5e,2d,2f,c2,c4,c0*2,c3,c5,c7,d1,a6,2c,25,5f,3e*2,f8,c9*3,c8,cd*3," ++
     "cc,60,3a,23,40,27,3d,22,d8,61*9,ab,bb,f0,fd*2,b1,b0,6a*9,aa,ba,e6,b8,c6,a4,b5,7e,73*8," ++
     "a1,bf,d0,dd*2,ae,a2*2,a5,b7,a9,a7,b6,bc*3,ac,7c,af,a8,b4,d7,7b,41*9,ad,f4,f6,f2*2,f5,7d," ++
     "4a*9,b9,fb*2,f9*2,ff,5c,f7,53*8,b2,d4,d6,d2*2,d5,30*10,b3,db*2,d9*2,9f"),
  (["cp720"],
    "0*130,e9,e2,84,e0,86,e7,ea*2,e8,ef,ee,8d*4,651*2,f4,a4,640,fb,f9,621*4,a3,625*17,ab,bb," ++
     "2591*3,2502,2524,2561*2,2556,2555,2563,2551,2557,255d,255c,255b,2510,2514,2534,252c," ++
     "251c,2500,253c,255e*2,255a,2554,2569,2566,2560,2550,256c,2567*2,2564*2,2559,2558,2552*2," ++
     "256b,256a,2518,250c,2588,2584,258c,2590,2580,636*5,641,b5,642*9,2261,64b*6,2248,b0,2219," ++
     "b7,221a,207f,b2,25a0,a0"),
  (["cp737"],
    "0*128,391*17,3a3*7,3b1*17,3c3,3c2,3c4*5,2591*3,2502,2524,2561*2,2556,2555,2563,2551," ++
     "2557,255d,255c,255b,2510,2514,2534,252c,251c,2500,253c,255e*2,255a,2554,2569,2566,2560," ++
     "2550,256c,2567*2,2564*2,2559,2558,2552*2,256b,256a,2518,250c,2588,2584,258c,2590,2580," ++
     "3c9,3ac*3,3ca,3af,3cc*2,3cb,3ce,386,388*3,38c,38e*2,b1,2265,2264,3aa*2,f7,2248,b0,2219," ++
     "b7,221a,207f,b2,25a0,a0"),
  (["cp775", "775", "cspc775baltic", "ibm775"],
    "0*128,106,fc,e9,101,e4,123,e5,107,142,113,156*2,12b,179,c4*2,c9,e6,c6,14d,f6,122,a2," ++
     "15a*2,d6,dc,f8,a3,d8,d7,a4,100,12a,f3,17b*2,17a,201d,a6,a9,ae,ac,bd,bc,141,ab,bb,2591*3," ++
     "2502,2524,104,10c,118,116,2563,2551,2557,255d,12e,160,2510,2514,2534,252c,251c,2500," ++
     "253c,172,16a,255a,2554,2569,2566,2560,2550,256c,17d,105,10d,119,117,12f,161,173,16b,17e," ++
     "2518,250c,2588,2584,258c,2590,2580,d3,df,14c,143,f5,d5,b5,144,136*2,13b*2,146,112,145," ++
     "2019,ad,b1,201c,be,b6,a7,f7,201e,b0,2219,b7,b9,b3,b2,25a0,a0"),
  (["cp850", "850", "cspc850multilingual", "ibm850"],
    "0*128,c7,fc,e9,e2,e4,e0,e5,e7,ea*2,e8,ef,ee,ec,c4*2,c9,e6,c6,f4,f6,f2,fb,f9,ff,d6,dc,f8," ++
     "a3,d8,d7,192,e1,ed,f3,fa,f1,d1,aa,ba,bf,ae,ac,bd,bc,a1,ab,bb,2591*3,2502,2524,c1*2,c0," ++
     "a9,2563,2551,2557,255d,a2,a5,2510,2514,2534,252c,251c,2500,253c,e3,c3,255a,2554,2569," ++
     "2566,2560,2550,256c,a4,f0,d0,ca*2,c8,131,cd*3,2518,250c,2588,2584,a6,cc,2580,d3,df,d4," ++
     "d2,f5,d5,b5,fe,de,da*2,d9,fd,dd,af,b4,ad,b1,2017,be,b6,a7,f7,b8,b0,a8,b7,b9,b3,b2,25a0," ++
     "a0"),
  (["cp852", "852", "cspcp852", "ibm852"],
    "0*128,c7,fc,e9,e2,e4,16f,107,e7,142,eb,150*2,ee,179,c4,106,c9,139*2,f4,f6,13d*2,15a*2," ++
     "d6,dc,164*2,141,d7,10d,e1,ed,f3,fa,104*2,17d*2,118*2,ac,17a,10c,15f,ab,bb,2591*3,2502," ++
     "2524,c1*2,11a,15e,2563,2551,2557,255d,17b*2,2510,2514,2534,252c,251c,2500,253c,102*2," ++
     "255a,2554,2569,2566,2560,2550,256c,a4,111,110,10e,cb,10f,147,cd*2,11b,2518,250c,2588," ++
     "2584,162,16e,2580,d3,df,d4,143*2,148,160*2,154,da,155,170,fd,dd,163,b4,ad,2dd,2db,2c7," ++
     "2d8,a7,f7,b8,b0,a8,2d9,171,158*2,25a0,a0"),
  (["cp855", "855", "csibm855", "ibm855"],
    "0*128,452,402,453,403,451,401,454,404,455,405,456,406,457,407,458,408,459,409,45a,40a," ++
     "45b,40b,45c,40c,45e,40e,45f,40f,44e,42e,44a,42a,430,410,431,411,446,426,434,414,435,415," ++
     "444,424,433,413,ab,bb,2591*3,2502,2524,445,425,438,418,2563,2551,2557,255d,439,419,2510," ++
     "2514,2534,252c,251c,2500,253c,43a,41a,255a,2554,2569,2566,2560,2550,256c,a4,43b,41b,43c," ++
     "41c,43d,41d,43e,41e,43f,2518,250c,2588,2584,41f,44f,2580,42f,440,420,441,421,442,422," ++
     "443,423,436,416,432,412,44c,42c,2116,ad,44b,42b,437,417,448,428,44d,42d,449,429,447,427," ++
     "a7,25a0,a0"),
  (["cp856"],
    "0*128,5d0*27,-,a3,-,d7,-*10,ae,ac,bd,bc,-,ab,bb,2591*3,2502,2524,-*3,a9,2563,2551,2557," ++
     "255d,a2,a5,2510,2514,2534,252c,251c,2500,253c,-*2,255a,2554,2569,2566,2560,2550,256c,a4," ++
     "-*9,2518,250c,2588,2584,a6,-,2580,-*6,b5,-*7,af,b4,ad,b1,2017,be,b6,a7,f7,b8,b0,a8,b7," ++
     "b9,b3,b2,25a0,a0"),
  (["cp857", "857", "csibm857", "ibm857"],
    "0*128,c7,fc,e9,e2,e4,e0,e5,e7,ea*2,e8,ef,ee,131,c4*2,c9,e6,c6,f4,f6,f2,fb,f9,130,d6,dc," ++
     "f8,a3,d8,15e*2,e1,ed,f3,fa,f1,d1,11e*2,bf,ae,ac,bd,bc,a1,ab,bb,2591*3,2502,2524,c1*2,c0," ++
     "a9,2563,2551,2557,255d,a2,a5,2510,2514,2534,252c,251c,2500,253c,e3,c3,255a,2554,2569," ++
     "2566,2560,2550,256c,a4,ba,aa,ca*2,c8,-,cd*3,2518,250c,2588,2584,a6,cc,2580,d3,df,d4,d2," ++
     "f5,d5,b5,-,d7,da*2,d9,ec,ff,af,b4,ad,b1,-,be,b6,a7,f7,b8,b0,a8,b7,b9,b3,b2,25a0,a0"),
  (["cp858", "858", "csibm858", "ibm858"],
    "0*128,c7,fc,e9,e2,e4,e0,e5,e7,ea*2,e8,ef,ee,ec,c4*2,c9,e6,c6,f4,f6,f2,fb,f9,ff,d6,dc,f8," ++
     "a3,d8,d7,192,e1,ed,f3,fa,f1,d1,aa,ba,bf,ae,ac,bd,bc,a1,ab,bb,2591*3,2502,2524,c1*2,c0," ++
     "a9,2563,2551,2557,255d,a2,a5,2510,2514,2534,252c,251c,2500,253c,e3,c3,255a,2554,2569," ++
     "2566,2560,2550,256c,a4,f0,d0,ca*2,c8,20ac,cd*3,2518,250c,2588,2584,a6,cc,2580,d3,df,d4," ++
     "d2,f5,d5,b5,fe,de,da*2,d9,fd,dd,af,b4,ad,b1,2017,be,b6,a7,f7,b8,b0,a8,b7,b9,b3,b2,25a0," ++
     "a0"),
  (["cp860", "860", "csibm860", "ibm860"],
    "0*128,c7,fc,e9,e2*2,e0,c1,e7,ea,ca,e8,cd,d4,ec,c3,c2,c9,c0,c8,f4*2,f2,da,f9,cc,d5,dc," ++
     "a2*2,d9,20a7,d3,e1,ed,f3,fa,f1,d1,aa,ba,bf,d2,ac,bd,bc,a1,ab,bb,2591*3,2502,2524,2561*2," ++
     "2556,2555,2563,2551,2557,255d,255c,255b,2510,2514,2534,252c,251c,2500,253c,255e*2,255a," ++
     "2554,2569,2566,2560,2550,256c,2567*2,2564*2,2559,2558,2552*2,256b,256a,2518,250c,2588," ++
     "2584,258c,2590,2580,3b1,df,393,3c0,3a3,3c3,b5,3c4,3a6,398,3a9,3b4,221e,3c6,3b5,2229," ++
     "2261,b1,2265,2264,2320*2,f7,2248,b0,2219,b7,221a,207f,b2,25a0,a0"),
  (["cp861", "861", "cp_is", "csibm861", "ibm861"],
    "0*128,c7,fc,e9,e2,e4,e0,e5,e7,ea*2,e8,d0,f0,de,c4*2,c9,e6,c6,f4,f6,fe,fb,dd,fd,d6,dc,f8," ++
     "a3,d8,20a7,192,e1,ed,f3,fa,c1,cd,d3,da,bf,2310,ac,bd,bc,a1,ab,bb,2591*3,2502,2524," ++
     "2561*2,2556,2555,2563,2551,2557,255d,255c,255b,2510,2514,2534,252c,251c,2500,253c," ++
     "255e*2,255a,2554,2569,2566,2560,2550,256c,2567*2,2564*2,2559,2558,2552*2,256b,256a,2518," ++
     "250c,2588,2584,258c,2590,2580,3b1,df,393,3c0,3a3,3c3,b5,3c4,3a6,398,3a9,3b4,221e,3c6," ++
     "3b5,2229,2261,b1,2265,2264,2320*2,f7,2248,b0,2219,b7,221a,207f,b2,25a0,a0"),
  (["cp862", "862", "cspc862latinhebrew", "ibm862"],
    "0*128,5d0*27,a2*2,a5,20a7,192,e1,ed,f3,fa,f1,d1,aa,ba,bf,2310,ac,bd,bc,a1,ab,bb,2591*3," ++
     "2502,2524,2561*2,2556,2555,2563,2551,2557,255d,255c,255b,2510,2514,2534,252c,251c,2500," ++
     "253c,255e*2,255a,2554,2569,2566,2560,2550,256c,2567*2,2564*2,2559,2558,2552*2,256b,256a," ++
     "2518,250c,2588,2584,258c,2590,2580,3b1,df,393,3c0,3a3,3c3,b5,3c4,3a6,398,3a9,3b4,221e," ++
     "3c6,3b5,2229,2261,b1,2265,2264,2320*2,f7,2248,b0,2219,b7,221a,207f,b2,25a0,a0"),
  (["cp863", "863", "csibm863", "ibm863"],
    "0*128,c7,fc,e9,e2,c2,e0,b6,e7,ea*2,e8,ef,ee,2017,c0,a7,c9,c8,ca,f4,cb,cf,fb,f9,a4,d4,dc," ++
     "a2*2,d9,db,192,a6,b4,f3,fa,a8,b8,b3,af,ce,2310,ac,bd,bc,be,ab,bb,2591*3,2502,2524," ++
     "2561*2,2556,2555,2563,2551,2557,255d,255c,255b,2510,2514,2534,252c,251c,2500,253c," ++
     "255e*2,255a,2554,2569,2566,2560,2550,256c,2567*2,2564*2,2559,2558,2552*2,256b,256a,2518," ++
     "250c,2588,2584,258c,2590,2580,3b1,df,393,3c0,3a3,3c3,b5,3c4,3a6,398,3a9,3b4,221e,3c6," ++
     "3b5,2229,2261,b1,2265,2264,2320*2,f7,2248,b0,2219,b7,221a,207f,b2,25a0,a0"),
  (["cp864", "864", "csibm864", "ibm864"],
    "0*37,66a,26*90,b0,b7,2219*2,2592,2500,2502,253c,2524,252c,251c,2534,2510,250c,2514,2518," ++
     "3b2,221e,3c6,b1,bd,bc,2248,ab,bb,fef7*2,-*2,fefb*2,-,a0,ad,fe82,a3*2,fe84,-*2,fe8e*2," ++
     "fe95,fe99,60c,fe9d,fea1,fea5,660*10,fed1,61b,feb1,feb5,feb9,61f,a2,fe80*2,fe83,fe85," ++
     "feca,fe8b,fe8d,fe91,fe93,fe97,fe9b,fe9f,fea3,fea7,fea9,feab,fead,feaf,feb3,feb7,febb," ++
     "febf,fec1,fec5,fecb,fecf,a6,ac,f7,d7,fec9,640,fed3,fed7,fedb,fedf,fee3,fee7,feeb,feed," ++
     "feef,fef3,febd,fecc,fece,fecd,fee1,fe7d,651,fee5,fee9,feec,fef0,fef2,fed0,fed5,fef5*2," ++
     "fedd,fed9,fef1,25a0"),
  (["cp865", "865", "csibm865", "ibm865"],
    "0*128,c7,fc,e9,e2,e4,e0,e5,e7,ea*2,e8,ef,ee,ec,c4*2,c9,e6,c6,f4,f6,f2,fb,f9,ff,d6,dc,f8," ++
     "a3,d8,20a7,192,e1,ed,f3,fa,f1,d1,aa,ba,bf,2310,ac,bd,bc,a1,ab,a4,2591*3,2502,2524," ++
     "2561*2,2556,2555,2563,2551,2557,255d,255c,255b,2510,2514,2534,252c,251c,2500,253c," ++
     "255e*2,255a,2554,2569,2566,2560,2550,256c,2567*2,2564*2,2559,2558,2552*2,256b,256a,2518," ++
     "250c,2588,2584,258c,2590,2580,3b1,df,393,3c0,3a3,3c3,b5,3c4,3a6,398,3a9,3b4,221e,3c6," ++
     "3b5,2229,2261,b1,2265,2264,2320*2,f7,2248,b0,2219,b7,221a,207f,b2,25a0,a0"),
  (["cp866", "866", "csibm866", "ibm866"],
    "0*128,410*48,2591*3,2502,2524,2561*2,2556,2555,2563,2551,2557,255d,255c,255b,2510,2514," ++
     "2534,252c,251c,2500,253c,255e*2,255a,2554,2569,2566,2560,2550,256c,2567*2,2564*2,2559," ++
     "2558,2552*2,256b,256a,2518,250c,2588,2584,258c,2590,2580,440*16,401,451,404,454,407,457," ++
     "40e,45e,b0,2219,b7,221a,2116,a4,25a0,a0")]

/-- The last half of the pages. -/
def lastPages : List (List String × String) := [
  (["cp869", "869", "cp_gr", "csibm869", "ibm869"],
    "0*128,-*6,386,-,b7,ac,a6,2018*2,388,2015,389*2,3aa,38c,-*2,38e,3ab,a9,38f,b2*2,3ac,a3," ++
     "3ad*3,3ca,390,3cc*2,391*7,bd,398*2,ab,bb,2591*3,2502,2524,39a*4,2563,2551,2557,255d," ++
     "39e*2,2510,2514,2534,252c,251c,2500,253c,3a0*2,255a,2554,2569,2566,2560,2550,256c,3a3*7," ++
     "3b1*3,2518,250c,2588,2584,3b4*2,2580,3b6*12,3c3,3c2,3c4,384,ad,b1,3c5*3,a7,3c8,385,b0," ++
     "a8,3c9,3cb,3b0,3ce,25a0,a0"),
  (["cp874"],
    "0*128,20ac,-*4,2026,-*11,2018*2,201c*2,2022,2013*2,-*8,a0,e01*58,-*4,e3f*29"),
  (["cp875"],
    "0*4,9c,9,86,7f,97,8d*2,b*9,9d,85,8,87,18*2,92,8f,1c*4,80*5,a,17,1b,88*5,5*3,90*2,16," ++
     "93*4,4,98*4,14*2,9e,1a,20,391*9,5b,2e,3c,28,2b,21,26,39a*8,3a3,5d,24,2a,29,3b,5e,2d,2f," ++
     "3a4*8,7c,2c,25,5f,3e*2,a8,386,388*2,a0,38a,38c,38e*2,60,3a,23,40,27,3d,22,385,61*9," ++
     "3b1*6,b0,6a*9,3b7*6,b4,7e,73*8,3bd*5,3c3,a3,3ac*3,3ca,3af,3cc*2,3cb,3ce,3c2,3c4*5,7b," ++
     "41*9,ad,3c9,390,3b0,2018,2015,7d,4a*9,b1,bd,1a,387,2019,a6,5c,1a,53*8,b2,a7,1a,1a,ab*2," ++
     "30*10,b3,a9,1a,1a,bb,9f"),
  (["hp_roman8", "roman8", "r8", "cp1051", "ibm1051"],
    "0*161,c0,c2,c8,ca*2,ce*2,b4,2cb,2c6,a8,2dc,d9,db,20a4,af,dd,fd,b0,c7,e7,d1,f1,a1,bf,a4," ++
     "a3,a5,a7,192,a2,e2,ea,f4,fb,e1,e9,f3,fa,e0,e8,f2,f9,e4,eb,f6,fc,c5,ee,d8,c6,e5,ed,f8,e6," ++
     "c4,ec,d6,dc,c9,ef,df,d4,c1,c3,e3,d0,f0,cd,cc,d3,d2,d5,f5,160*2,da,178,ff,de,fe,b7,b5*2," ++
     "be,2014,bc*2,aa,ba,ab,25a0,bb,b1"),
  (["iso8859_10", "csisolatin6", "iso_8859_10", "iso_8859_10_1992", "iso_ir_157", "l6", "latin6"],
    "0*161,104,112,122,12a,128,136,a7,13b,110,160,166,17d,ad,16a,14a,b0,105,113,123,12b,129," ++
     "137,b7,13c,111,161,167,17e,2015,16b,14b,100,c1*6,12e,10c,c9,118,cb,116,cd*4,145,14c," ++
     "d3*4,168,d8,172,da*6,101,e1*6,12f,10d,e9,119,eb,117,ed*4,146,14d,f3*4,169,f8,173,fa*5," ++
     "138"),
  (["iso8859_11", "thai", "iso_8859_11", "iso_8859_11_2001"],
    "0*161,e01*58,-*4,e3f*29"),
  (["iso8859_13", "iso_8859_13", "l7", "latin7"],
    "0*161,201d,a2*3,201e,a6*2,d8,a9,156,ab*4,c6,b0*4,201c,b5*3,f8,b9,157,bb*4,e6,104,12e," ++
     "100,106,c4*2,118,112,10c,c9,179,116,122,136,12a,13b,160,143,145,d3,14c,d5*3,172,141,15a," ++
     "16a,dc,17b,17d,df,105,12f,101,107,e4*2,119,113,10d,e9,17a,117,123,137,12b,13c,161,144," ++
     "146,f3,14d,f5*3,173,142,15b,16b,fc,17c,17e,2019"),
  (["iso8859_14", "iso_8859_14", "iso_8859_14_1998", "iso_celtic", "iso_ir_199", "l8", "latin8"],
    "0*161,1e02*2,a3,10a*2,1e0a,a7,1e80,a9,1e82,1e0b,1ef2,ad*2,178,1e1e*2,120*2,1e40*2,b6," ++
     "1e56,1e81,1e57,1e83,1e60,1ef3,1e84*2,1e61,c0*16,174,d1*6,1e6a,d8*6,176,df*17,175,f1*6," ++
     "1e6b,f8*6,177,ff"),
  (["iso8859_15", "iso_8859_15", "l9", "latin9"],
    "0*164,20ac,a5,160,a7,161,a9*11,17d,b5*3,17e,b9*3,152*2,178,bf*65"),
  (["iso8859_16", "iso_8859_16", "iso_8859_16_2001", "iso_ir_226", "l10", "latin10"],
    "0*161,104*2,141,20ac,201e,160,a7,161,a9,218,ab,179,ad,17a*2,b0*2,10c,142,17d,201d,b6*2," ++
     "17e,10d,219,bb,152*2,178,17c,c0*3,102,c4,106,c6*10,110,143,d2*3,150,d6,15a,170,d9*4,118," ++
     "21a,df*4,103,e4,107,e6*10,111,144,f2*3,151,f6,15b,171,f9*4,119,21b,ff"),
  (["iso8859_2", "csisolatin2", "iso_8859_2", "iso_8859_2_1987", "iso_ir_101", "l2", "latin2"],
    "0*161,104,2d8,141,a4,13d,15a,a7*2,160,15e,164,179,ad,17d,17b,b0,105,2db,142,b4,13e,15b," ++
     "2c7,b8,161,15f,165,17a,2dd,17e,17c,154,c1*2,102,c4,139,106,c7,10c,c9,118,cb,11a,cd*2," ++
     "10e,110,143,147,d3*2,150,d6*2,158,16e,da,170,dc*2,162,df,155,e1*2,103,e4,13a,107,e7,10d," ++
     "e9,119,eb,11b,ed*2,10f,111,144,148,f3*2,151,f6*2,159,16f,fa,171,fc*2,163,2d9"),
  (["iso8859_3", "csisolatin3", "iso_8859_3", "iso_8859_3_1988", "iso_ir_109", "l3", "latin3"],
    "0*161,126,2d8,a3*2,-,124,a7*2,130,15e,11e,134,ad,-,17b,b0,127,b2*4,125,b7*2,131,15f,11f," ++
     "135,bd,-,17c,c0*3,-,c4,10a,108,c7*9,-,d1*4,120,d6*2,11c,d9*4,16c,15c,df*4,-,e4,10b,109," ++
     "e7*9,-,f1*4,121,f6*2,11d,f9*4,16d,15d,2d9"),
  (["iso8859_4", "csisolatin4", "iso_8859_4", "iso_8859_4_1988", "iso_ir_110", "l4", "latin4"],
    "0*161,104,138,156,a4,128,13b,a7*2,160,112,122,166,ad,17d,af*2,105,2db,157,b4,129,13c," ++
     "2c7,b8,161,113,123,167,14a,17e,14b,100,c1*6,12e,10c,c9,118,cb,116,cd*2,12a,110,145,14c," ++
     "136,d4*5,172,da*3,168,16a,df,101,e1*6,12f,10d,e9,119,eb,117,ed*2,12b,111,146,14d,137," ++
     "f4*5,173,fa*3,169,16b,2d9"),
  (["iso8859_5", "csisolatincyrillic", "cyrillic", "iso_8859_5", "iso_8859_5_1988", "iso_ir_144"],
    "0*161,401*12,ad,40e*66,2116,451*12,a7,45e*2"),
  (["iso8859_6", "arabic", "asmo_708", "csisolatinarabic", "ecma_114", "iso_8859_6",
    "iso_8859_6_1987", "iso_ir_127"],
    "0*161,-*3,a4,-*7,60c,ad,-*13,61b,-*3,61f,-,621*26,-*5,640*19"),
  (["iso8859_7", "csisolatingreek", "ecma_118", "elot_928", "greek", "greek8", "iso_8859_7",
    "iso_8859_7_1987", "iso_ir_126"],
    "0*161,2018*2,a3,20ac,20af,a6*4,37a,ab*3,-,2015,b0*4,384*3,b7,388*3,bb,38c,bd,38e*20,-," ++
     "3a3*44"),
  (["iso8859_8", "csisolatinhebrew", "hebrew", "iso_8859_8", "iso_8859_8_1988", "iso_ir_138"],
    "0*161,-,a2*8,d7,ab*15,f7,bb*4,-*32,2017,5d0*27,-*2,200e*2"),
  (["iso8859_9", "csisolatin5", "iso_8859_9", "iso_8859_9_1989", "iso_ir_148", "l5", "latin5"],
    "0*208,11e,d1*12,130,15e,df*17,11f,f1*12,131,15f,ff"),
  (["koi8_r", "cskoi8r"],
    "0*128,2500,2502,250c,2510,2514,2518,251c,2524,252c,2534,253c,2580,2584,2588,258c,2590*4," ++
     "2320,25a0,2219*2,2248,2264*2,a0,2321,b0,b2,b7,f7,2550*3,451,2553*15,401,2562*11,a9,44e," ++
     "430*2,446,434*2,444,433,445,438*8,44f,440*4,436,432,44c,44b,437,448,44d,449,447,44a,42e," ++
     "410*2,426,414*2,424,413,425,418*8,42f,420*4,416,412,42c,42b,417,428,42d,429,427,42a"),
  (["koi8_t"],
    "0*128,49b,493,201a,492,201e,2026,2020*2,-,2030,4b3,2039,4b2,4b7,4b6,-,49a,2018*2,201c*2," ++
     "2022,2013*2,-,2122,-,203a,-*5,4ef,4ee,451,a4,4e3,a6*2,-*3,ab*4,-,b0*3,401,-,4e2,b6*2,-," ++
     "2116,-,bb,-*3,a9,44e,430*2,446,434*2,444,433,445,438*8,44f,440*4,436,432,44c,44b,437," ++
     "448,44d,449,447,44a,42e,410*2,426,414*2,424,413,425,418*8,42f,420*4,416,412,42c,42b,417," ++
     "428,42d,429,427,42a"),
  (["koi8_u"],
    "0*128,2500,2502,250c,2510,2514,2518,251c,2524,252c,2534,253c,2580,2584,2588,258c,2590*4," ++
     "2320,25a0,2219*2,2248,2264*2,a0,2321,b0,b2,b7,f7,2550*3,451,454,2554,456*2,2557*5,491," ++
     "255d*5,401,404,2563,406*2,2566*5,490,256c,a9,44e,430*2,446,434*2,444,433,445,438*8,44f," ++
     "440*4,436,432,44c,44b,437,448,44d,449,447,44a,42e,410*2,426,414*2,424,413,425,418*8,42f," ++
     "420*4,416,412,42c,42b,417,428,42d,429,427,42a"),
  (["kz1048", "kz_1048", "rk1048", "strk1048_2002"],
    "0*128,402*2,201a,453,201e,2026,2020*2,20ac,2030,409,2039,40a,49a,4ba,40f,452,2018*2," ++
     "201c*2,2022,2013*2,-,2122,459,203a,45a,49b,4bb,45f,a0,4b0*2,4d8,a4,4e8,a6*2,401,a9,492," ++
     "ab*4,4ae,b0*2,406,456,4e9,b5*3,451,2116,493,bb,4d9,4a2*2,4af,410*64"),
  (["mac_arabic"],
    "0*128,c4,a0,c7,c9,d1,d6,dc,e1,e0,e2,e4,6ba,ab,e7,e9,e8,ea*2,ed,2026,ee*2,f1,f3,bb,f4," ++
     "f6*2,fa,f9,fb*2,20*5,66a,26*6,60c,2d*3,660*10,3a,61b,3c*3,61f,274a,621*26,5b*5,640*19," ++
     "67e,679,686,6d5,6a4,6af,688,691,7b*3,698,6d2"),
  (["mac_croatian"],
    "0*128,c4*2,c7,c9,d1,d6,dc,e1,e0,e2,e4,e3,e5,e7,e9,e8,ea*2,ed,ec,ee*2,f1,f3,f2,f4,f6,f5," ++
     "fa,f9,fb*2,2020,b0,a2*2,a7,2022,b6,df,ae,160,2122,b4,a8,2260,17d,d8,221e,b1,2264*2,2206," ++
     "b5,2202,2211,220f,161,222b,aa,ba,3a9,17e,f8,bf,a1,ac,221a,192,2248,106,ab,10c,2026,a0," ++
     "c0,c3,d5,152*2,110,2014,201c*2,2018*2,f7,25ca,f8ff,a9,2044,20ac,2039*2,c6,bb,2013,b7," ++
     "201a,201e,2030,c2,107,c1,10d,c8,cd*3,cc,d3*2,111,d2,da*2,d9,131,2c6,2dc,af,3c0,cb,2da," ++
     "b8,ca,e6,2c7"),
  (["mac_cyrillic", "maccyrillic"],
    "0*128,410*32,2020,b0,490,a3,a7,2022,b6,406,ae,a9,2122,402,452,2260,403,453,221e,b1," ++
     "2264*2,456,b5,491,408,404,454,407,457,409,459,40a,45a,458,405,ac,221a,192,2248,2206,ab," ++
     "bb,2026,a0,40b,45b,40c,45c,455,2013*2,201c*2,2018*2,f7,201e,40e,45e,40f,45f,2116,401," ++
     "451,44f,430*31,20ac"),
  (["mac_farsi"],
    "0*128,c4,a0,c7,c9,d1,d6,dc,e1,e0,e2,e4,6ba,ab,e7,e9,e8,ea*2,ed,2026,ee*2,f1,f3,bb,f4," ++
     "f6*2,fa,f9,fb*2,20*5,66a,26*6,60c,2d*3,6f0*10,3a,61b,3c*3,61f,274a,621*26,5b*5,640*19," ++
     "67e,679,686,6d5,6a4,6af,688,691,7b*3,698,6d2"),
  (["mac_greek", "macgreek"],
    "0*128,c4,b9,b2,c9,b3,d6,dc,385,e0,e2,e4,384,a8,e7,e9,e8,ea*2,a3,2122,ee*2,2022,bd,2030," ++
     "f4,f6,a6,20ac,f9,fb*2,2020,393*2,398,39b,39e,3a0,df,ae,a9,3a3,3aa,a7,2260,b0,b7,391,b1," ++
     "2264*2,a5,392,395*3,399*2,39c,3a6,3ab,3a8*2,3ac,39d,ac,39f,3a1,2248,3a4,ab,bb,2026,a0," ++
     "3a5,3a7,386,388,153,2013,2015,201c*2,2018*2,f7,389*2,38c,38e,3ad*3,3cc,38f,3cd,3b1*2," ++
     "3c8,3b4*2,3c6,3b3,3b7,3b9,3be,3ba*4,3bf*2,3ce,3c1,3c3*2,3b8,3c9,3c2,3c7,3c5,3b6,3ca*2," ++
     "390,3b0,ad"),
  (["mac_iceland", "maciceland"],
    "0*128,c4*2,c7,c9,d1,d6,dc,e1,e0,e2,e4,e3,e5,e7,e9,e8,ea*2,ed,ec,ee*2,f1,f3,f2,f4,f6,f5," ++
     "fa,f9,fb*2,dd,b0,a2*2,a7,2022,b6,df,ae,a9,2122,b4,a8,2260,c6,d8,221e,b1,2264*2,a5,b5," ++
     "2202,2211,220f,3c0,222b,aa,ba,3a9,e6,f8,bf,a1,ac,221a,192,2248,2206,ab,bb,2026,a0,c0,c3," ++
     "d5,152*2,2013*2,201c*2,2018*2,f7,25ca,ff,178,2044,20ac,d0,f0,de,fe,fd,b7,201a,201e,2030," ++
     "c2,ca,c1,cb,c8,cd*3,cc,d3*2,f8ff,d2,da*2,d9,131,2c6,2dc,af,2d8*3,b8,2dd,2db,2c7"),
  (["mac_latin2", "maccentraleurope", "mac_centeuro", "maclatin2"],
    "0*128,c4,100*2,c9,104,d6,dc,e1,105,10c,e4,10d,106*2,e9,179*2,10e,ed,10f,112*2,116,f3," ++
     "117,f4,f6,f5,fa,11a*2,fc,2020,b0,118,a3,a7,2022,b6,df,ae,a9,2122,119,a8,2260,123,12e*2," ++
     "12a,2264*2,12b,136,2202,2211,142,13b*4,139*2,145*2,143,ac,221a,144,147,2206,ab,bb,2026," ++
     "a0,148,150,d5,151,14c,2013*2,201c*2,2018*2,f7,25ca,14d,154*2,158,2039*2,159,156*2,160," ++
     "201a,201e,161,15a*2,c1,164*2,cd,17d*2,16a,d3*2,16b,16e,da,16f*5,dd,fd,137,17b,141,17c," ++
     "122,2c7"),
  (["mac_roman", "macintosh", "macroman"],
    "0*128,c4*2,c7,c9,d1,d6,dc,e1,e0,e2,e4,e3,e5,e7,e9,e8,ea*2,ed,ec,ee*2,f1,f3,f2,f4,f6,f5," ++
     "fa,f9,fb*2,2020,b0,a2*2,a7,2022,b6,df,ae,a9,2122,b4,a8,2260,c6,d8,221e,b1,2264*2,a5,b5," ++
     "2202,2211,220f,3c0,222b,aa,ba,3a9,e6,f8,bf,a1,ac,221a,192,2248,2206,ab,bb,2026,a0,c0,c3," ++
     "d5,152*2,2013*2,201c*2,2018*2,f7,25ca,ff,178,2044,20ac,2039*2,fb01*2,2021,b7,201a,201e," ++
     "2030,c2,ca,c1,cb,c8,cd*3,cc,d3*2,f8ff,d2,da*2,d9,131,2c6,2dc,af,2d8*3,b8,2dd,2db,2c7"),
  (["mac_romanian"],
    "0*128,c4*2,c7,c9,d1,d6,dc,e1,e0,e2,e4,e3,e5,e7,e9,e8,ea*2,ed,ec,ee*2,f1,f3,f2,f4,f6,f5," ++
     "fa,f9,fb*2,2020,b0,a2*2,a7,2022,b6,df,ae,a9,2122,b4,a8,2260,102,218,221e,b1,2264*2,a5," ++
     "b5,2202,2211,220f,3c0,222b,aa,ba,3a9,103,219,bf,a1,ac,221a,192,2248,2206,ab,bb,2026,a0," ++
     "c0,c3,d5,152*2,2013*2,201c*2,2018*2,f7,25ca,ff,178,2044,20ac,2039*2,21a*2,2021,b7,201a," ++
     "201e,2030,c2,ca,c1,cb,c8,cd*3,cc,d3*2,f8ff,d2,da*2,d9,131,2c6,2dc,af,2d8*3,b8,2dd,2db," ++
     "2c7"),
  (["mac_turkish", "macturkish"],
    "0*128,c4*2,c7,c9,d1,d6,dc,e1,e0,e2,e4,e3,e5,e7,e9,e8,ea*2,ed,ec,ee*2,f1,f3,f2,f4,f6,f5," ++
     "fa,f9,fb*2,2020,b0,a2*2,a7,2022,b6,df,ae,a9,2122,b4,a8,2260,c6,d8,221e,b1,2264*2,a5,b5," ++
     "2202,2211,220f,3c0,222b,aa,ba,3a9,e6,f8,bf,a1,ac,221a,192,2248,2206,ab,bb,2026,a0,c0,c3," ++
     "d5,152*2,2013*2,201c*2,2018*2,f7,25ca,ff,178,11e*2,130*2,15e*2,2021,b7,201a,201e,2030," ++
     "c2,ca,c1,cb,c8,cd*3,cc,d3*2,f8ff,d2,da*2,d9,f8a0,2c6,2dc,af,2d8*3,b8,2dd,2db,2c7"),
  (["palmos"],
    "0*128,20ac,81,201a,192,201e,2026,2020*2,2c6,2030,160,2039,152,2666,2663,2665,2660," ++
     "2018*2,201c*2,2022,2013*2,2dc,2122,161,9b,153,9d*2,178,a0*96"),
  (["ptcp154", "csptcp154", "pt154", "cp154", "cyrillic_asian"],
    "0*128,496,492,4ee,493,201e,2026,4b6,4ae,4b2,4af,4a0,4e2,4a2,49a,4ba,4b8,497,2018*2," ++
     "201c*2,2022,2013*2,4b3,4b7,4a1,4e3,4a3,49b,4bb,4b9,a0,40e,45e,408,4e8,498,4b0,a7,401,a9," ++
     "4d8,ab*2,4ef,ae,49c,b0,4b1,406,456,499,4e9,b6*2,451,2116,4d9,bb,458,4aa*2,49d,410*64"),
  (["tis_620", "tis620", "tis_620_0", "tis_620_2529_0", "tis_620_2529_1", "iso_ir_166"],
    "0*160,-,e01*58,-*4,e3f*29")]

/-- All pages. -/
def pages : List (List String × String) := firstPages ++ lastPages

end Encoding

end CommandConsole.Text

/-! ## Encodings with a page -/

namespace CommandConsole.Text

open CommandConsole.Number

namespace Encoding

/-- The characters of the bytes of a part of a page. -/
def partOfPage (part : String) : List (Option Nat) :=
  let (code, count) := match split '*' part with
    | [code, count] => (code, positional 10 (count.toList.filterMap (digitOf? 10)))
    | _ => (part, 1)
  let start := positional 16 (code.toList.filterMap (digitOf? 16))
  (List.range count).map fun i => if code == "-" then none else some (start + i)

/-- The characters of the bytes of a page. -/
def pageCodes (row : String) : List (Option Nat) :=
  (split ',' row).flatMap partOfPage

/-- The character of a byte on a page. -/
def pageChar? (row : String) (byte : Nat) : Option Char :=
  ((pageCodes row)[byte]?.getD none).map Char.ofNat

/-- The byte of a character on a page. -/
def pageByte? (row : String) (c : Char) : Option Nat :=
  (((pageCodes row).zipIdx.filter (·.1 == some c.toNat)).getLast?).map (·.2)

/-- The page of an encoding of a name. -/
def pageOf? (name : String) : Option String :=
  (pages.find? (·.1.contains name)).map (·.2)

end Encoding

end CommandConsole.Text
